import Scoreboard.Codec.Record
import Scoreboard.Json.Basic
import Scoreboard.Page.Basic
import Scoreboard.Text.Blank
import Scoreboard.Text.Digit

/-!
# Simple data in JSON

## Main definitions

- `Json.toText`, `Json.toBool`, `Json.toWhole`, … — simple data read from a value
- `Json.toChoice` — one of some named choices
- `RoundId.ofText` — the round that a text names
- `RoundId.ofJson`, `RoundId.toJson` — rounds
-/

namespace Scoreboard

namespace Json

/-- What a message calls the value. -/
def found : Json → Found
  | null => .null
  | bool value => .bool value
  | integer value => .integer value
  | real value => .real (.finite value)
  | text value => .text value
  | array _ => .sequence
  | object _ => .map

/-- The value, one layer deep. -/
def view : Json → View Json
  | array items => .items items
  | object members => .members members
  | json => .other json.found

/-- A text. -/
def toText : Json → Except DecodeError String
  | text value => .ok value
  | json => .error (.wrongType json.found .text)

/-- A truth value. -/
def toBool : Json → Except DecodeError Bool
  | bool value => .ok value
  | json => .error (.wrongType json.found .boolean)

/-- A whole number of a range. -/
def toWhole (kind : IntKind) : Json → Except DecodeError Int
  | integer n =>
    if kind.holds n then .ok n else .error (.wrongValue (.integer n) (.whole kind))
  | json => .error (.wrongType json.found (.whole kind))

/-- A value that may be null. -/
def toOption {α : Type} (decode : Json → Except DecodeError α) :
    Json → Except DecodeError (Option α)
  | null => .ok none
  | json => (decode json).map some

/-- A list of values. -/
def toList {α : Type} (decode : Json → Except DecodeError α) : Json → Except DecodeError (List α)
  | array items => items.mapM decode
  | json => .error (.wrongType json.found .sequence)

/-- Nothing. -/
def toUnit : Json → Except DecodeError Unit
  | null => .ok ()
  | json => .error (.wrongType json.found .unit)

/-- One of some named choices: its name, or an object whose only member has its name and no
    value. -/
def toChoice {α : Type} (choose : String → Except DecodeError α) : Json → Except DecodeError α
  | text name => choose name
  | object [(name, value)] => do
    let choice ← choose name
    toUnit value
    return choice
  | object _ => .error (.wrongValue .map .onlyMember)
  | json => .error (.wrongType json.found .choice)

/-- A year. -/
def toYear (json : Json) : Except DecodeError Int32 :=
  (json.toWhole .int32).map Int32.ofInt

/-- A year. -/
def ofYear (year : Int32) : Json :=
  .integer year.toInt

end Json

/-- The choice of a name, where some choices go by several names. -/
def chooseFrom {α : Type} (choices : List (String × α)) (name : String) : Except DecodeError α :=
  match choices.find? fun choice => choice.1 = name with
  | some choice => .ok choice.2
  | none => .error (.unknownChoice name (choices.map Prod.fst))

namespace ParticipantId

/-- A participant read from a value: its name. -/
def ofJson (json : Json) : Except DecodeError ParticipantId :=
  json.toText.map ParticipantId.mk

/-- The value of a participant. -/
def toJson (player : ParticipantId) : Json :=
  .text player.name

end ParticipantId

namespace RoundId

/-- The round of digits after a number that was read already. -/
def ofDigitsFrom (n : Nat) : List Char → Except RoundFault Nat
  | [] => .ok n
  | c :: cs =>
    match Text.digitValue? c with
    | none => .error .badDigit
    | some d => if 10 * n + d < UInt32.size then ofDigitsFrom (10 * n + d) cs else .error .tooLarge

/-- The number of a text: digits after a plus sign or none. -/
def numberOf : List Char → Except RoundFault Nat
  | [] => .error .empty
  | ['+'] => .error .badDigit
  | '+' :: cs => ofDigitsFrom 0 cs
  | cs => ofDigitsFrom 0 cs

/-- The round that a text names, blanks at its ends aside. -/
def ofText (s : String) : Except DecodeError RoundId :=
  match numberOf (Text.trimChars s.toList) with
  | .ok n => .ok ⟨UInt32.ofNat n⟩
  | .error fault => .error (.badRound s fault)

/-- A round read from a value: its number, or a text that names it. -/
def ofJson : Json → Except DecodeError RoundId
  | .integer n =>
    if IntKind.uint32.holds n then .ok ⟨UInt32.ofNat n.toNat⟩ else .error (.noForm "Raw")
  | .text s => ofText s
  | _ => .error (.noForm "Raw")

/-- The value of a round: its number. -/
def toJson (round : RoundId) : Json :=
  .ofNat round.number.toNat

end RoundId

namespace Direction

/-- The names of the directions, the short ones first. -/
def choices : List (String × Direction) :=
  [("asc", .ascending), ("ascending", .ascending), ("desc", .descending),
    ("descending", .descending)]

/-- A direction read from a value. -/
def ofJson (json : Json) : Except DecodeError Direction :=
  json.toChoice (chooseFrom choices)

/-- The name of a direction. -/
def name : Direction → String
  | ascending => "ascending"
  | descending => "descending"

/-- The value of a direction. -/
def toJson (direction : Direction) : Json :=
  .text direction.name

end Direction

end Scoreboard
