import Scoreboard.Grid.Store
import Scoreboard.Proofs.Cell.Year
import Scoreboard.Proofs.Sort.Exchange

/-!
# Sorts by another clock

Where nothing names the year of a table's stamps, the clock does. A sort is the same whatever the
clock says, exchange by exchange, unless a cell that it compares names 29 February.

## Main definitions

- `WithoutLeapDay` — none of the cells that are compared names 29 February

## Main statements

- `Comparison.sort_of_year` — two years give the same sort, in step all the way
- `Store.click_of_year` — two years of the clock give the same click
- `Comparison.sort_same_by_clock` — only 29 February can make a sort depend on the clock
-/

namespace Scoreboard

open Calendar (Supports isLeap)

/-- No row is compared by a cell that names 29 February. -/
def WithoutLeapDay (rows : List Row) (index : Nat) : Prop :=
  ∀ row ∈ rows, ∀ cell ∈ row.cells[index]?, ¬CellValue.NamesLeapDay cell.text

instance (rows : List Row) (index : Nat) : Decidable (WithoutLeapDay rows index) :=
  inferInstanceAs (Decidable (∀ row ∈ rows, ∀ cell ∈ row.cells[index]?,
    ¬CellValue.NamesLeapDay cell.text))

section

variable {y₁ y₂ : Int} (h₁ : Supports y₁) (h₂ : Supports y₂) {column offset : Nat}
  {rows : List Row}

include h₁ h₂

namespace Comparison

variable (h : isLeap y₁ = isLeap y₂ ∨ WithoutLeapDay rows (column + offset))

include h

theorem outOfOrder_of_year (direction : Direction) {upper lower : Row} (hupper : upper ∈ rows)
    (hlower : lower ∈ rows) :
    (Comparison.mk column offset y₁).outOfOrder direction upper lower =
      (Comparison.mk column offset y₂).outOfOrder direction upper lower := by
  have hsame {row : Row} (hrow : row ∈ rows) {cell : Cell}
      (hcell : row.cells[column + offset]? = some cell) :
      isLeap y₁ = isLeap y₂ ∨ ¬CellValue.NamesLeapDay cell.text :=
    h.imp_right fun hother => hother row hrow cell hcell
  unfold outOfOrder order? text?
  dsimp only
  cases hu : upper.cells[column + offset]? with
  | none => rfl
  | some u =>
    cases hl : lower.cells[column + offset]? with
    | none => rfl
    | some l =>
      simp only [Option.map_some]
      rw [CellValue.compare?_of_year h₁ h₂ (hsame hupper hu) (hsame hlower hl)]

theorem sortIn_of_year (direction : Direction) :
    (Comparison.mk column offset y₁).sortIn direction rows =
      (Comparison.mk column offset y₂).sortIn direction rows :=
  exchangeSort_congr _ _ fun _ hupper _ hlower =>
    outOfOrder_of_year h₁ h₂ h direction hupper hlower

theorem sort_of_year (requested : Direction) :
    (Comparison.mk column offset y₁).sort requested rows =
      (Comparison.mk column offset y₂).sort requested rows := by
  unfold sort
  rw [sortIn_of_year h₁ h₂ h, sortIn_of_year h₁ h₂ h]

end Comparison

end

theorem Table.click_congr {table : Table} {indicators : Indicators} {first second : Comparison}
    (hcolumn : first.column = second.column)
    (hsort : ∀ requested, first.sort requested table.rows = second.sort requested table.rows) :
    table.click indicators first = table.click indicators second := by
  unfold click
  simp only [hcolumn, hsort]

namespace Store

/-- The clock plays no part where anything else names the year. -/
theorem yearOf_cases (store : Store) (table : Table) (y₁ y₂ : Int) :
    store.yearOf y₁ table = store.yearOf y₂ table ∨ ∀ clock, store.yearOf clock table = clock := by
  unfold yearOf
  cases table.year <|> store.page.year <|> store.settings.referenceYear with
  | some year => exact .inl rfl
  | none => exact .inr fun clock => rfl

theorem click_of_year {y₁ y₂ : Int} (h₁ : Supports y₁) (h₂ : Supports y₂) {store : Store}
    {tableId : String} {column : Nat}
    (h : isLeap y₁ = isLeap y₂ ∨ ∀ table ∈ store.page.table? tableId,
      WithoutLeapDay table.rows (column + store.settings.cellOffset.toNat)) :
    store.click y₁ tableId column = store.click y₂ tableId column := by
  unfold click
  cases htable : store.page.table? tableId with
  | none => rfl
  | some table =>
    have hclick : table.click store.indicators (store.comparison y₁ table column) =
        table.click store.indicators (store.comparison y₂ table column) := by
      refine Table.click_congr rfl fun requested => ?_
      unfold comparison
      rcases store.yearOf_cases table y₁ y₂ with hnamed | hclock
      · rw [hnamed]
      · rw [hclock, hclock]
        exact Comparison.sort_of_year h₁ h₂ (h.imp_right fun hother => hother table htable)
          requested
    dsimp only
    rw [hclick]

end Store

/-- Two years in which days may lie give the same sort, with the same rows in the same order after
    the same number of exchanges, and the direction turned round in both or in neither, if they are
    of the same length or no compared cell names 29 February. So only such a cell can make a click
    depend on what year the clock says. -/
theorem Comparison.sort_same_by_clock {y₁ y₂ : Int} (h₁ : Supports y₁) (h₂ : Supports y₂) :
    (∀ (column offset : Nat) (requested : Direction) (rows : List Row),
      isLeap y₁ = isLeap y₂ ∨ WithoutLeapDay rows (column + offset) →
        (Comparison.mk column offset y₁).sort requested rows =
          (Comparison.mk column offset y₂).sort requested rows) ∧
    ∀ (store : Store) (tableId : String) (column : Nat),
      (isLeap y₁ = isLeap y₂ ∨ ∀ table ∈ store.page.table? tableId,
        WithoutLeapDay table.rows (column + store.settings.cellOffset.toNat)) →
      store.click y₁ tableId column = store.click y₂ tableId column :=
  ⟨fun _ _ requested _ h => Comparison.sort_of_year h₁ h₂ h requested,
    fun _ _ _ h => Store.click_of_year h₁ h₂ h⟩

/-- The rows of a table whose compared cells have these texts. -/
def rowsOf (texts : List String) : List Row :=
  texts.map fun text => ⟨text, none, none, [.plain text]⟩

/-- A leap year and a common one sort days on either side of 29 February alike. -/
theorem Comparison.sort_same_by_clock_february :
    (Comparison.mk 0 0 2024).sort .ascending
        (rowsOf ["3/1 12:05am", "E", "2/28 11:59pm", "13/2 9:00am", "1/31 9:00pm"]) =
      (Comparison.mk 0 0 2023).sort .ascending
        (rowsOf ["3/1 12:05am", "E", "2/28 11:59pm", "13/2 9:00am", "1/31 9:00pm"]) := by
  refine (Comparison.sort_same_by_clock ⟨?_, ?_⟩ ⟨?_, ?_⟩).1 _ _ _ _ (.inr ?_)
  · decide
  · decide
  · decide
  · decide
  · decide +kernel

end Scoreboard
