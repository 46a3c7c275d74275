import Scoreboard.Cell.Numeral
import Scoreboard.Cell.Stamp
import Scoreboard.Text.Blank
import Scoreboard.Text.Lower

/-!
# The value of a cell's text

A cell shows text. For sorting, the text stands for a moment, a number, or itself.

## Main definitions

- `CellValue` — what a text stands for
- `CellValue.read` — the value of a text in a year: a moment before a number before plain text
- `CellValue.compare?` — the order of two texts, if they have one
-/

namespace Scoreboard

/-- What a cell's text stands for. -/
inductive CellValue where
  | stamp (moment : Stamp)
  | number (score : Finite binary64)
  | text (key : String)
  deriving DecidableEq

namespace CellValue

/-- The text by which anything but a moment is ordered against plain text. -/
def key (raw : String) : String :=
  Text.lower (Text.trim raw)

/-- The value of a text whose stamps lie in `year`. -/
def read (year : Int) (raw : String) : CellValue :=
  let cs := Text.trimChars raw.toList
  match Stamp.read? year cs with
  | some moment => .stamp moment
  | none =>
    match Numeral.score? cs with
    | some score => .number score
    | none => .text (key raw)

/-- The value is a moment. -/
def isStamp : CellValue → Bool
  | .stamp _ => true
  | _ => false

/-- The order of two texts. Moments are ordered by time and numbers by value; a number against plain
    text, like two plain texts, by their keys. A moment has no order with anything else. -/
def compare? (year : Int) (left right : String) : Option Ordering :=
  match read year left, read year right with
  | .stamp s, .stamp t => some (s.order t)
  | .number x, .number y => some (x.order y)
  | .stamp _, _ => none
  | _, .stamp _ => none
  | _, _ => some (compare (key left) (key right))

/-- Exchanging the two texts reverses their order. -/
theorem compare?_swap (year : Int) (left right : String) :
    compare? year right left = (compare? year left right).map Ordering.swap := by
  have hkey : compare (key right) (key left) = (compare (key left) (key right)).swap :=
    Std.OrientedCmp.eq_swap
  unfold compare?
  match read year left, read year right with
  | .stamp s, .stamp t => simp [Stamp.order_swap s t]
  | .stamp _, .number _ => rfl
  | .stamp _, .text _ => rfl
  | .number _, .stamp _ => rfl
  | .number x, .number y => simp [Finite.order_swap x y]
  | .number _, .text _ => simp [hkey]
  | .text _, .stamp _ => rfl
  | .text _, .number _ => simp [hkey]
  | .text _, .text _ => simp [hkey]

end CellValue

end Scoreboard
