import Scoreboard.Number.Shortest
import Scoreboard.Text.Quoted

/-!
# Refused values

Why a dynamic value is refused where typed data is due, and the wording of the refusal.

## Main definitions

- `Found` — what was found
- `Wanted` — what was due
- `DecodeError` — why a value is refused
- `DecodeError.message` — the wording
-/

namespace Scoreboard

/-- What stands where something else is due. -/
inductive Found where
  | null
  | bool (value : Bool)
  | integer (value : Int)
  | real (value : Binary binary64)
  | text (value : String)
  | sequence
  | map
  deriving DecidableEq

/-- The range that a whole number has to fit. -/
inductive IntKind where
  | int32
  | uint32
  | uint64
  /-- A count or an index, 64 bits. -/
  | size
  deriving DecidableEq

namespace IntKind

/-- The name of the range. -/
def name : IntKind → String
  | int32 => "i32"
  | uint32 => "u32"
  | uint64 => "u64"
  | size => "usize"

/-- The smallest number of the range. -/
def least : IntKind → Int
  | int32 => -2147483648
  | _ => 0

/-- The smallest number above the range. -/
def bound : IntKind → Int
  | int32 => 2147483648
  | uint32 => 4294967296
  | uint64 => 18446744073709551616
  | size => 18446744073709551616

/-- The number fits the range. -/
def holds (kind : IntKind) (n : Int) : Bool :=
  kind.least ≤ n && n < kind.bound

end IntKind

/-- What is due. -/
inductive Wanted where
  | text
  | boolean
  /-- A whole number of a range. -/
  | whole (kind : IntKind)
  | single
  | sequence
  | unit
  /-- The fields of a record. -/
  | record (name : String)
  /-- One of some choices. -/
  | choice
  /-- The only member of an object. -/
  | onlyMember
  /-- The name of a choice. -/
  | choiceName
  /-- A record that names its own choice. -/
  | tagged (name : String)
  deriving DecidableEq

/-- How many items are due. -/
inductive WantedItems where
  /-- Those of a record. -/
  | record (name : String) (fields : Nat)
  /-- No more than the fields of the record. -/
  | fewer
  | exactly (count : Nat)
  deriving DecidableEq

/-- Why a text is no round number. -/
inductive RoundFault where
  | empty
  /-- It holds something other than digits. -/
  | badDigit
  /-- The number is too large. -/
  | tooLarge
  deriving DecidableEq

/-- Why a value is refused. -/
inductive DecodeError where
  /-- It is of the wrong kind. -/
  | wrongType (found : Found) (wanted : Wanted)
  /-- It is of the right kind but does not fit. -/
  | wrongValue (found : Found) (wanted : Wanted)
  /-- A list has the wrong number of items. -/
  | wrongLength (length : Nat) (wanted : WantedItems)
  /-- A field is missing. -/
  | missing (field : String)
  /-- A field comes twice. -/
  | duplicate (field : String)
  /-- There is no such choice. -/
  | unknownChoice (name : String) (choices : List String)
  /-- A text is no round number. -/
  | badRound (text : String) (fault : RoundFault)
  /-- It has none of the forms of its kind. -/
  | noForm (name : String)
  deriving DecidableEq

/-- The wording of what was found; real numbers are printed in the style of the value's format. -/
def Found.message (style : RealStyle) : Found → String
  | null => "null"
  | bool true => "boolean `true`"
  | bool false => "boolean `false`"
  | integer n => "integer `" ++ (if n < 0 then "-" else "") ++ n.natAbs.repr ++ "`"
  | real (.finite x) => "floating point `" ++ style.print x ++ "`"
  | real (.infinite true) => "floating point `-inf`"
  | real (.infinite false) => "floating point `inf`"
  | real .nan => "floating point `NaN`"
  | text s => "string " ++ Text.quoted s
  | sequence => "sequence"
  | map => "map"

/-- The wording of what is due. -/
def Wanted.message : Wanted → String
  | text => "a string"
  | boolean => "a boolean"
  | whole kind => kind.name
  | single => "f32"
  | sequence => "a sequence"
  | unit => "unit"
  | record name => name
  | choice => "string or map"
  | onlyMember => "map with a single key"
  | choiceName => "variant identifier"
  | tagged name => "internally tagged enum " ++ name

/-- A count with its noun. -/
def countOf (n : Nat) (noun : String) : String :=
  n.repr ++ " " ++ noun ++ (if n = 1 then "" else "s")

/-- The wording of how many items are due. -/
def WantedItems.message : WantedItems → String
  | record name fields => name ++ " with " ++ countOf fields "element"
  | fewer => "fewer elements in array"
  | exactly count => countOf count "element" ++ " in sequence"

/-- The wording of why a text is no round number. -/
def RoundFault.message : RoundFault → String
  | empty => "cannot parse integer from empty string"
  | badDigit => "invalid digit found in string"
  | tooLarge => "number too large to fit in target type"

/-- The wording of a refusal; real numbers are printed in the style of the value's format. -/
def DecodeError.message (style : RealStyle) : DecodeError → String
  | wrongType found wanted =>
    "invalid type: " ++ found.message style ++ ", expected " ++ wanted.message
  | wrongValue found wanted =>
    "invalid value: " ++ found.message style ++ ", expected " ++ wanted.message
  | wrongLength length wanted => "invalid length " ++ length.repr ++ ", expected " ++ wanted.message
  | missing field => "missing field `" ++ field ++ "`"
  | duplicate field => "duplicate field `" ++ field ++ "`"
  | unknownChoice name choices =>
    "unknown variant `" ++ name ++ "`, expected one of "
      ++ ", ".intercalate (choices.map fun choice => "`" ++ choice ++ "`")
  | badRound text fault => "invalid round '" ++ text ++ "': " ++ fault.message
  | noForm name => "data did not match any variant of untagged enum " ++ name

end Scoreboard
