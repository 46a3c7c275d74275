import Scoreboard.Grid.Collapse
import Scoreboard.Grid.ElementId
import Scoreboard.Grid.Selection

/-!
# What is visible

## Main definitions

- `Tags` — what decides whether a thing is shown
- `Tags.visible` — it is shown
- `Visibility` — for each thing on a page, whether it is shown
- `Page.visibility` — the visibility of a page

## Design notes

A thing is shown if it passes the selected participant and the selected round and is not folded away
with a collapsed round. The header of a round answers to the selected round alone, and a cell is
shown only in a row that is. Where two things of a page share a name the later one counts.
-/

namespace Scoreboard

/-- What decides whether a thing is shown. -/
structure Tags where
  /-- The participant it belongs to. -/
  player : Option ParticipantId := none
  /-- The round it belongs to. -/
  round : Option RoundId := none
  /-- It is hidden while its round is collapsed. -/
  hideable : Bool := false
  deriving DecidableEq

/-- The thing passes both selections and is not folded away. -/
def Tags.visible (tags : Tags) (selection : Selection) (collapse : Collapse) : Bool :=
  selection.allowsPlayer tags.player && selection.allowsRound tags.round
    && !(tags.hideable && tags.round.any collapse.isCollapsed)

/-- The tags of a column header. -/
def Column.tags (column : Column) : Tags := ⟨none, column.round, column.hideable⟩

/-- The tags of a row. -/
def Row.tags (row : Row) : Tags := ⟨row.player, row.round, false⟩

/-- The tags of a cell. -/
def Cell.tags (cell : Cell) : Tags := ⟨cell.player, cell.round, cell.hideable⟩

/-- The tags of an element. -/
def Element.tags (element : Element) : Tags := ⟨element.player, element.round, false⟩

/-- For each thing on a page, whether it is shown. -/
abbrev Visibility := SortedMap ElementId Bool

section

variable (selection : Selection) (collapse : Collapse)

/-- A row and its cells, each with whether it is shown. -/
def Row.shown (tableId : String) (row : Row) : List (ElementId × Bool) :=
  let visible := row.tags.visible selection collapse
  (.row tableId row.id, visible) :: row.cells.mapIdx fun column cell =>
    (.cell tableId row.id column, visible && cell.tags.visible selection collapse)

/-- The headers and rows of a table, each with whether it is shown. -/
def Table.shown (table : Table) : List (ElementId × Bool) :=
  table.groups.map (fun group =>
      (.group table.id group.round, selection.allowsRound (some group.round)))
    ++ table.columns.mapIdx (fun index column =>
      (.header table.id index, column.tags.visible selection collapse))
    ++ table.rows.flatMap (Row.shown selection collapse table.id)

/-- The things of a page in page order, each with whether it is shown. -/
def Page.shown (page : Page) : List (ElementId × Bool) :=
  page.tables.flatMap (Table.shown selection collapse)
    ++ page.elements.map fun element =>
      (.element element.id, element.tags.visible selection collapse)

/-- The visibility of a page. -/
def Page.visibility (page : Page) : Visibility :=
  SortedMap.ofList (page.shown selection collapse)

end

end Scoreboard
