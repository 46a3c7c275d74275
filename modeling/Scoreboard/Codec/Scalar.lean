import Scoreboard.Codec.Record

/-!
# Simple data in any format

## Main definitions

- `View.found` — what a message calls a value
- `View.toText`, `View.toWhole`, `View.toSingle` — simple data read from a value
-/

namespace Scoreboard.View

variable {V : Type}

/-- What a message calls the value. -/
def found : View V → Found
  | members _ => .map
  | items _ => .sequence
  | other found => found

/-- A text. -/
def toText (view : View V) : Except DecodeError String :=
  match view.found with
  | .text value => .ok value
  | found => .error (.wrongType found .text)

/-- A whole number of a range. -/
def toWhole (kind : IntKind) (view : View V) : Except DecodeError Int :=
  match view.found with
  | .integer n =>
    if kind.holds n then .ok n else .error (.wrongValue (.integer n) (.whole kind))
  | found => .error (.wrongType found (.whole kind))

/-- A single-precision number, rounded from any number. -/
def toSingle (view : View V) : Except DecodeError (Binary binary32) :=
  match view.found with
  | .integer n => .ok (binary32.ofRatio (n < 0) n.natAbs 1)
  | .real x => .ok (x.convert binary32)
  | found => .error (.wrongType found .single)

end Scoreboard.View
