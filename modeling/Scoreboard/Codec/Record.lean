import Scoreboard.Codec.Error

/-!
# Records

A record is written as an object or as the list of its fields in order. The same rules hold for
every format with lists and objects, so they are stated for any kind of value that can be viewed as
one.

## Main definitions

- `View` — what a value is, one layer deep
- `Shape` — the name of a record and its fields in order
- `Misfit` — a refused value and why it is refused
- `Shape.decode` — a record read from a value
- `Shape.required`, `Shape.optional` — what a missing field amounts to

## Design notes

The members of an object are taken one after the other, so the first bad one decides; a missing
field is only noticed after them. In a list, a missing field is a missing item.
-/

namespace Scoreboard

/-- What a value is, one layer deep. -/
inductive View (V : Type) where
  | members (members : List (String × V))
  | items (items : List V)
  | other (found : Found)

/-- A refused value and why it is refused. -/
structure Misfit (V : Type) where
  value : V
  /-- Why it is refused. -/
  error : DecodeError

/-- What was made of a value, or that value as the one at fault. -/
def blame {V α : Type} (value : V) (result : Except DecodeError α) : Except (Misfit V) α :=
  result.mapError (Misfit.mk value)

/-- What is made of a list with more items than a record has fields. -/
inductive Surplus where
  /-- It is refused as too long. -/
  | tooMany
  /-- It is refused, with the count that is due. -/
  | counted
  /-- The items that are left over are ignored. -/
  | ignored
  deriving DecidableEq

/-- The name of a record and its fields in order. -/
structure Shape where
  /-- What messages call the record. -/
  name : String
  /-- The fields in order. -/
  fields : List String
  /-- What is made of a list with too many items. -/
  surplus : Surplus := .tooMany

/-- The two ways of writing a record. -/
inductive Form where
  | members
  | items
  deriving DecidableEq

namespace Shape

/-- A field that has to be there is missing. -/
def missing (shape : Shape) : Form → String → DecodeError
  | .members, field => .missing field
  | .items, field =>
    .wrongLength (shape.fields.idxOf field) (.record shape.name shape.fields.length)

/-- A field that has to be there. -/
def required {α : Type} (shape : Shape) (form : Form) (field : String) :
    Option α → Except DecodeError α
  | some a => .ok a
  | none => .error (shape.missing form field)

/-- A field that may be missing from an object but not from a list. -/
def optional {α : Type} (shape : Shape) (form : Form) (field : String) :
    Option (Option α) → Except DecodeError (Option α)
  | some a => .ok a
  | none =>
    match form with
    | .members => .ok none
    | .items => .error (shape.missing form field)

/-- A list may have this many items. -/
def checkLength (shape : Shape) (length : Nat) : Except DecodeError Unit :=
  if length ≤ shape.fields.length then .ok ()
  else
    match shape.surplus with
    | .tooMany => .error (.wrongLength length .fewer)
    | .counted => .error (.wrongLength length (.exactly shape.fields.length))
    | .ignored => .ok ()

/-- A record read from a value: `take` adds one field to what was read so far, and `finish` makes
    the record of it. What is wrong with the record as a whole is passed through `refuse`. -/
def decodeWith {V σ α ε : Type} (shape : Shape) (refuse : DecodeError → ε) (start : σ)
    (take : σ → String → V → Except ε σ) (finish : Form → σ → Except DecodeError α) :
    View V → Except ε α
  | .members members => do
    let parts ← members.foldlM (fun parts member => take parts member.1 member.2) start
    (finish .members parts).mapError refuse
  | .items items => do
    let fields := shape.fields.zip items
    let parts ← fields.foldlM (fun parts field => take parts field.1 field.2) start
    let record ← (finish .items parts).mapError refuse
    (shape.checkLength items.length).mapError refuse
    return record
  | .other found => .error (refuse (.wrongType found (.record shape.name)))

/-- A record read from a value, where it does not matter which value is at fault. -/
def decode {V σ α : Type} (shape : Shape) (start : σ)
    (take : σ → String → V → Except DecodeError σ) (finish : Form → σ → Except DecodeError α) :
    View V → Except DecodeError α :=
  shape.decodeWith id start take finish

end Shape

end Scoreboard
