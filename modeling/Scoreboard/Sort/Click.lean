import Scoreboard.Grid.Error
import Scoreboard.Sort.Comparison
import Scoreboard.SortedMap

/-!
# Clicks on column headers

## Main definitions

- `Indicator`, `Indicators` — the sorted column of each table
- `SortReport` — what a click did
- `Table.click` — a table, and the indicators, after a click

## Design notes

The indicator keeps the direction that the click asked for, even when the rows were turned round. So
the next click on the same column asks for the other direction, and on another column for the
ascending one.
-/

namespace Scoreboard

/-- The sorted column of a table and the direction that was asked for. -/
structure Indicator where
  column : Nat
  direction : Direction
  deriving DecidableEq

/-- The indicator of each table that was sorted, by the table's name. -/
abbrev Indicators := SortedMap String Indicator

/-- The direction shown at a column of a table, if that is its sorted column. -/
def Indicators.direction? (indicators : Indicators) (tableId : String) (column : Nat) :
    Option Direction :=
  match indicators.get? tableId with
  | some indicator => if indicator.column = column then some indicator.direction else none
  | none => none

/-- The direction that a click asks for: descending only where ascending is shown. -/
def Direction.next : Option Direction → Direction
  | some .ascending => .descending
  | _ => .ascending

/-- What a click on a header did. -/
structure SortReport where
  tableId : String
  column : Nat
  /-- The direction that the click asked for. -/
  requested : Direction
  /-- The direction in which the rows were put. -/
  applied : Direction
  /-- The direction was turned round, since the rows had the order that was asked for. -/
  flipped : Bool
  /-- How many exchanges it took. -/
  swaps : Nat
  /-- The names of the rows before the click. -/
  before : List String
  /-- The names of the rows after the click. -/
  after : List String
  deriving DecidableEq

/-- A table, and the indicators, after a click on the header of a column; refused if the table has
    no such column. -/
def Table.click (table : Table) (indicators : Indicators) (comparison : Comparison) :
    Except GridError (Table × Indicators × SortReport) :=
  if comparison.column < table.columns.length then
    let requested := Direction.next (indicators.direction? table.id comparison.column)
    let sorted := comparison.sort requested table.rows
    let table' := { table with rows := sorted.rows }
    .ok (table', indicators.insert table.id ⟨comparison.column, requested⟩,
      { tableId := table.id
        column := comparison.column
        requested := requested
        applied := sorted.applied
        flipped := sorted.flipped
        swaps := sorted.swaps
        before := table.rowIds
        after := table'.rowIds })
  else
    .error (.columnOutOfRange table.id comparison.column table.columns.length)

end Scoreboard
