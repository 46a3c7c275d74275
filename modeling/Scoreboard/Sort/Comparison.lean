import Scoreboard.Cell.Value
import Scoreboard.Page.Basic
import Scoreboard.Sort.Exchange

/-!
# Sorting the rows of a table

## Main definitions

- `Comparison` — which cells of two rows are compared, and in which year
- `Comparison.outOfOrder` — the upper of two rows belongs below the lower one
- `Comparison.sort` — the rows put in order, with what the sort did

## Design notes

Rows without the compared cell, and pairs of a stamp and something else, have no order: they stay
where they are and rows are not carried past them. A request for the ascending order of rows that
already have it is taken as a request for the descending one.
-/

namespace Scoreboard

/-- Which cells of two rows are compared, and the year of their stamps. -/
structure Comparison where
  column : Nat
  /-- How many cells stand before the first sorted column. -/
  offset : Nat
  /-- The year of the stamps. -/
  year : Int
  deriving DecidableEq

/-- An order of two neighbours that goes against a direction. -/
def Direction.opposes : Direction → Ordering → Bool
  | .ascending, .gt => true
  | .descending, .lt => true
  | _, _ => false

/-- An order and its reverse never both go against a direction. -/
theorem Direction.not_opposes_swap (direction : Direction) {o : Ordering}
    (h : direction.opposes o = true) : direction.opposes o.swap = false := by
  revert h
  cases direction <;> cases o <;> decide

/-- What a sort did. -/
structure Sorted where
  /-- The rows in their new order. -/
  rows : List Row
  /-- The direction in which they are ordered. -/
  applied : Direction
  /-- How many exchanges it took. -/
  swaps : Nat
  /-- The rows were in ascending order already, so the direction was turned round. -/
  flipped : Bool

namespace Comparison

/-- The text that a row is compared by, if it has that cell. -/
def text? (comparison : Comparison) (row : Row) : Option String :=
  row.cells[comparison.column + comparison.offset]?.map Cell.text

/-- The order of two rows, if they have one. -/
def order? (comparison : Comparison) (upper lower : Row) : Option Ordering :=
  match comparison.text? upper, comparison.text? lower with
  | some u, some l => CellValue.compare? comparison.year u l
  | _, _ => none

/-- The upper of two rows belongs below the lower one. -/
def outOfOrder (comparison : Comparison) (direction : Direction) (upper lower : Row) : Bool :=
  (comparison.order? upper lower).any direction.opposes

/-- Exchanging two rows reverses their order. -/
theorem order?_swap (comparison : Comparison) (upper lower : Row) :
    comparison.order? lower upper = (comparison.order? upper lower).map Ordering.swap := by
  unfold order?
  match comparison.text? upper, comparison.text? lower with
  | some u, some l => exact CellValue.compare?_swap comparison.year u l
  | some _, none => rfl
  | none, some _ => rfl
  | none, none => rfl

/-- Two rows are never out of order both ways round. -/
theorem outOfOrder_asymm (comparison : Comparison) (direction : Direction) :
    Asymmetric (comparison.outOfOrder direction) := by
  intro upper lower h
  unfold outOfOrder at h ⊢
  rw [comparison.order?_swap upper lower]
  cases ho : comparison.order? upper lower with
  | none => rfl
  | some o => exact direction.not_opposes_swap (by simpa [ho] using h)

/-- The rows put in order in one direction, and the number of exchanges. -/
def sortIn (comparison : Comparison) (direction : Direction) (rows : List Row) : List Row × Nat :=
  exchangeSort (comparison.outOfOrder direction) (comparison.outOfOrder_asymm direction) rows

/-- The rows put in order. Rows found in ascending order are put in descending order instead. -/
def sort (comparison : Comparison) (requested : Direction) (rows : List Row) : Sorted :=
  let (sorted, swaps) := comparison.sortIn requested rows
  if requested = .ascending ∧ swaps = 0 then
    let (sorted, swaps) := comparison.sortIn .descending rows
    ⟨sorted, .descending, swaps, true⟩
  else
    ⟨sorted, requested, swaps, false⟩

end Comparison

end Scoreboard
