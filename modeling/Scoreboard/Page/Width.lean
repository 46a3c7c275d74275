import Scoreboard.Page.Basic

/-!
# Even tables

The rows of a table should have the same number of cells. The first row sets the width.

## Main definitions

- `UnevenRow` — a row of another width than its table
- `Page.unevenRow?` — the first uneven row of a page
-/

namespace Scoreboard

/-- A row of another width than its table. -/
structure UnevenRow where
  tableId : String
  rowId : String
  /-- How many cells it has. -/
  cells : Nat
  /-- How many it should have. -/
  width : Nat
  deriving DecidableEq

/-- The wording of a complaint about a row. -/
def UnevenRow.message (uneven : UnevenRow) : String :=
  "Table " ++ uneven.tableId ++ ": row " ++ uneven.rowId ++ " has " ++ uneven.cells.repr
    ++ " cells, expected " ++ uneven.width.repr

/-- The first row of a table that is not as wide as its first row. -/
def Table.unevenRow? (table : Table) : Option UnevenRow :=
  match table.rows with
  | [] => none
  | first :: rest =>
    (rest.find? fun row => row.cells.length ≠ first.cells.length).map fun row =>
      ⟨table.id, row.id, row.cells.length, first.cells.length⟩

/-- The first uneven row of a page. -/
def Page.unevenRow? (page : Page) : Option UnevenRow :=
  page.tables.findSome? Table.unevenRow?

end Scoreboard
