import Scoreboard.Number.Binary
import Scoreboard.SortedMap

/-!
# JSON values

## Main definitions

- `Json` — a JSON value
- `Json.ofMembers` — the object of a list of members
- `Json.ofNat`, `Json.ofOption`, `Json.ofList` — values of simple data

## Design notes

A number written with a fraction or an exponent is a real, never an integer, even if its value is
whole. Integers reach from `-2 ^ 63` to `2 ^ 64 - 1`; what is written beyond them is a real.
Objects that were read hold their members in ascending order of the names.
-/

namespace Scoreboard

/-- A JSON value. -/
inductive Json where
  | null
  | bool (value : Bool)
  | integer (value : Int)
  | real (value : Finite binary64)
  | text (value : String)
  /-- A list of values. -/
  | array (items : List Json)
  | object (members : List (String × Json))
  deriving Inhabited

namespace Json

/-- The object of a list of members in reading order: the members come in ascending order of their
    names, and of several members of one name the last one stays. -/
def ofMembers (members : List (String × Json)) : Json :=
  .object (SortedMap.ofList members).entries

/-- The value of the first member of a name. -/
def member? (json : Json) (name : String) : Option Json :=
  match json with
  | .object members => (members.find? fun member => member.1 = name).map Prod.snd
  | _ => none

/-- A natural number. -/
def ofNat (n : Nat) : Json :=
  .integer n

/-- A value, or null for none. -/
def ofOption {α : Type} (encode : α → Json) : Option α → Json
  | some a => encode a
  | none => .null

/-- A list of values. -/
def ofList {α : Type} (encode : α → Json) (items : List α) : Json :=
  .array (items.map encode)

end Json

end Scoreboard
