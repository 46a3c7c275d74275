import Scoreboard.Screen.Widget
import Scoreboard.Text.Blank

/-!
# Tables on the screen

A table is drawn as a row of round headers, a row of column headers and one row for each visible
row. All of them have the same columns, which are those that have something to show.

## Main definitions

- `Table.visibleRows` — the rows that are drawn
- `Table.shownCells` — the positions of the cells that are drawn
- `Table.widgets` — the widgets of a table

## Design notes

A column is drawn if its header is visible or any visible row has a visible cell there: a collapsed
round keeps the column that sums it up, though its header is hidden. Cells that belong to no sorted
column are drawn always.
-/

namespace Scoreboard

/-- The last row of a name. -/
def Table.lastRow? (table : Table) (id : String) : Option Row :=
  table.rows.reverse.find? fun row => row.id = id

/-- The rows in the order to draw, whether visible or not. -/
def Table.orderedRows (table : Table) (render : Render) : List Row :=
  match render.rowOrder? table.id with
  | some ids => ids.filterMap table.lastRow?
  | none => table.rows

/-- The rows that are drawn. -/
def Table.visibleRows (table : Table) (render : Render) : List Row :=
  (table.orderedRows render).filter fun row => render.isVisible (.row table.id row.id)

namespace Render

/-- The cell of a row is visible. -/
def cellVisible (render : Render) (table : Table) (row : Row) (index : Nat) : Bool :=
  render.isVisible (.cell table.id row.id index)

/-- The header of a column is visible. -/
def headerVisible (render : Render) (table : Table) (column : Nat) : Bool :=
  render.isVisible (.header table.id column)

end Render

namespace Table

/-- The sorted column that the cells at a position belong to; `offset` cells stand before the first
    one. -/
def columnAt? (table : Table) (offset index : Nat) : Option Nat :=
  if offset ≤ index ∧ index - offset < table.columns.length then some (index - offset) else none

/-- How many cells wide a table is: as wide as its first row, if it has one. -/
def drawnWidth (table : Table) (offset : Nat) : Nat :=
  match table.rows with
  | row :: _ => row.cells.length
  | [] => offset + table.columns.length

/-- The cells at a position are drawn. -/
def showsAt (table : Table) (render : Render) (offset index : Nat) : Bool :=
  match table.columnAt? offset index with
  | none => true
  | some column =>
    render.headerVisible table column
      || (table.visibleRows render).any fun row => render.cellVisible table row index

/-- The positions of the cells that are drawn. -/
def shownCells (table : Table) (render : Render) (offset : Nat) : List Nat :=
  (List.range (table.drawnWidth offset)).filter (table.showsAt render offset)

/-- The round header over a position, unless it was drawn further left. -/
def groupAt? (table : Table) (offset : Nat) (seen : List RoundId) (index : Nat) :
    Option GroupHeader := do
  let column ← table.columnAt? offset index
  let round ← (← table.columns[column]?).round
  if round ∈ seen then none else table.groups.find? fun group => group.round = round

/-- The link of a round header; an empty text, if it is hidden. -/
def groupWidget (table : Table) (render : Render) (group : GroupHeader) : Widget :=
  if render.isVisible (.group table.id group.round) then
    let view := render.group? group.round
    let label := (view.map GroupView.label).getD ""
    let span := (view.map GroupView.span).getD 1
    .link (group.title ++ " · " ++ label) ("spans " ++ span.toNat.repr ++ " column(s)")
      (.event (.roundToggle group.round))
  else
    .label ""

/-- The row of round headers; `seen` are those drawn already. -/
def groupWidgets (table : Table) (render : Render) (offset : Nat) :
    List RoundId → List Nat → List Widget
  | _, [] => []
  | seen, index :: rest =>
    match table.groupAt? offset seen index with
    | none => .label "" :: table.groupWidgets render offset seen rest
    | some group =>
      table.groupWidget render group
        :: table.groupWidgets render offset (group.round :: seen) rest

/-- The arrow at a column, if the table is sorted by it. -/
def arrowAt (table : Table) (render : Render) (column : Nat) : String :=
  match render.indicators.direction? table.id column with
  | some direction => direction.arrow
  | none => ""

/-- The header over the cells at a position. -/
def headerWidget (table : Table) (render : Render) (offset index : Nat) : Widget :=
  match table.columnAt? offset index with
  | none => .label ((table.leading[index]?).getD "")
  | some column =>
    if render.headerVisible table column then
      let label := ((table.columns[column]?).map Column.label).getD ""
      .button (Text.trimEnd (label ++ " " ++ table.arrowAt render column))
        (.event (.headerClick table.id (UInt64.ofNat column)))
    else
      .label ""

/-- The text that is drawn for a cell; nothing, if it is hidden or missing. -/
def drawnText (table : Table) (render : Render) (row : Row) (index : Nat) : String :=
  match row.cells[index]? with
  | some cell => if render.cellVisible table row index then cell.text else ""
  | none => ""

/-- The widgets of a table. -/
def widgets (table : Table) (render : Render) (offset : Nat) : List Widget :=
  let shown := table.shownCells render offset
  table.groupWidgets render offset [] shown
    ++ shown.map (table.headerWidget render offset)
    ++ (table.visibleRows render).flatMap fun row =>
      shown.map fun index => .label (table.drawnText render row index)

end Table

end Scoreboard
