import Scoreboard.Grid.Visibility
import Scoreboard.Sort.Click

/-!
# The store behind a page

The store holds a page and everything that interaction changes. It takes one event at a time and
answers with what to redraw.

## Main definitions

- `Event` — an interaction
- `Store` — a page with the state of its sorts, selection and collapsed rounds
- `Render` — what to draw
- `Store.render` — what to draw of a store
- `Store.handle` — the store after an event, and what to draw
- `Store.run` — the store after a series of events, refused ones changing nothing

## Design notes

The clock is asked for its year whenever an event comes, so the year is given with the event: it may
be another one at each event.
-/

namespace Scoreboard

/-- An interaction with a page. -/
inductive Event where
  /-- A click on the header of a column. -/
  | headerClick (tableId : String) (column : UInt64)
  /-- A participant is chosen. -/
  | participantClick (participant : ParticipantId)
  /-- No participant is chosen any more. -/
  | participantReset
  /-- A round is chosen. -/
  | roundSelect (round : RoundId)
  /-- No round is chosen any more. -/
  | roundReset
  /-- A round is collapsed or expanded. -/
  | roundToggle (round : RoundId)
  deriving DecidableEq

/-- The rows of one table from top to bottom. -/
structure RowOrder where
  tableId : String
  /-- The names of its rows. -/
  rowIds : List String
  deriving DecidableEq

/-- What to draw. -/
structure Render where
  /-- The rows of each table. -/
  rowOrders : List RowOrder
  visibility : Visibility
  /-- The sorted columns of the tables on the page. -/
  indicators : Indicators
  /-- The headers of the rounds. -/
  groups : List GroupView
  /-- The selected participant and round. -/
  selection : Selection
  /-- What the sort did, if the event was a click on a header. -/
  sort : Option SortReport
  deriving DecidableEq

namespace Render

/-- The thing is shown; what is not on the page counts as shown. -/
def isVisible (render : Render) (id : ElementId) : Bool :=
  (render.visibility.get? id).getD true

/-- The rows of the first table of a name. -/
def rowOrder? (render : Render) (tableId : String) : Option (List String) :=
  (render.rowOrders.find? fun order => order.tableId = tableId).map RowOrder.rowIds

/-- The header of a round. -/
def group? (render : Render) (round : RoundId) : Option GroupView :=
  render.groups.find? fun group => group.round = round

end Render

/-- A page with everything that interaction changes. -/
structure Store where
  /-- The page, with its rows in their current order. -/
  page : Page
  settings : Settings
  indicators : Indicators
  /-- The selected participant and round. -/
  selection : Selection
  collapse : Collapse
  deriving DecidableEq

namespace Store

/-- The store of a page that nobody has touched. -/
def new (page : Page) (settings : Settings) : Store where
  page := page
  settings := settings
  indicators := ∅
  selection := {}
  collapse := Collapse.ofPage page settings.collapse

/-- The year of a table's stamps: its own, else the page's, else the one of the settings, else the
    one that the clock says. -/
def yearOf (store : Store) (clock : Int) (table : Table) : Int :=
  match table.year <|> store.page.year <|> store.settings.referenceYear with
  | some year => year.toInt
  | none => clock

/-- What a click on a column of a table compares. -/
def comparison (store : Store) (clock : Int) (table : Table) (column : Nat) : Comparison :=
  ⟨column, store.settings.cellOffset.toNat, store.yearOf clock table⟩

/-- The list with the first element that passes the test replaced. -/
def replaceFirst {α : Type} (test : α → Bool) (new : α) : List α → List α
  | [] => []
  | a :: rest => if test a then new :: rest else a :: replaceFirst test new rest

/-- The store after a click on the header of a column. Of several tables of one name the first one
    is sorted. -/
def click (store : Store) (clock : Int) (tableId : String) (column : Nat) :
    Except GridError (Store × SortReport) := do
  let some table := store.page.table? tableId | throw (.tableNotFound tableId)
  let (table, indicators, report) ←
    table.click store.indicators (store.comparison clock table column)
  let tables := replaceFirst (fun other => other.id = tableId) table store.page.tables
  return ({ store with page := { store.page with tables }, indicators }, report)

/-- What to draw of a store. -/
def render (store : Store) : Render where
  rowOrders := store.page.tables.map fun table => ⟨table.id, table.rowIds⟩
  visibility := store.page.visibility store.selection store.collapse
  indicators := SortedMap.ofList <| store.page.tables.filterMap fun table =>
    (store.indicators.get? table.id).map fun indicator => (table.id, indicator)
  groups := store.collapse.views
  selection := store.selection
  sort := none

/-- The store after an event, and the report of a sort. A refused event leaves no new store. -/
def apply (store : Store) (clock : Int) : Event → Except GridError (Store × Option SortReport)
  | .headerClick tableId column => do
    let (store, report) ← store.click clock tableId column.toNat
    return (store, some report)
  | .participantClick participant =>
    return ({ store with selection := { store.selection with participant := some participant } },
      none)
  | .participantReset =>
    return ({ store with selection := { store.selection with participant := none } }, none)
  | .roundSelect round =>
    return ({ store with selection := { store.selection with round := some round } }, none)
  | .roundReset =>
    return ({ store with selection := { store.selection with round := none } }, none)
  | .roundToggle round => do
    let (collapse, _) ← store.collapse.toggle round
    return ({ store with collapse }, none)

/-- The store after an event, and what to draw. -/
def handle (store : Store) (clock : Int) (event : Event) :
    Except GridError (Store × Render) := do
  let (store, sort) ← store.apply clock event
  return (store, { store.render with sort })

/-- The store after an event; a refused one changes nothing. -/
def step (store : Store) (clock : Int) (event : Event) : Store :=
  match store.apply clock event with
  | .ok (store, _) => store
  | .error _ => store

/-- The store after a series of events, each with what the clock says when it comes. -/
def run (store : Store) (events : List (Int × Event)) : Store :=
  events.foldl (fun store entry => store.step entry.1 entry.2) store

end Store

end Scoreboard
