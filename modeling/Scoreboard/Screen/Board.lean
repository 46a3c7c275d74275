import Scoreboard.Screen.TableView

/-!
# The board

The board shows the page of a store. It keeps what the store told it to draw and draws that until
the next click.

## Main definitions

- `Board` — a store and what is drawn of it
- `Board.widgets` — the widgets of the board
- `Board.frame` — the board after a frame in which some widgets were clicked
-/

namespace Scoreboard

/-- A store and what is drawn of it. -/
structure Board where
  store : Store
  /-- What was last told to draw; none before the first frame. -/
  drawn : Option Render := none
  lastSort : Option SortReport := none
  /-- Why the last click was refused, if it was. -/
  lastError : Option GridError := none

/-- The name of a direction at the start of a word. -/
def Direction.title : Direction → String
  | .ascending => "Ascending"
  | .descending => "Descending"

/-- The name of a kind of element. -/
def ElementKind.title : ElementKind → String
  | .chart => "Chart"
  | .linescore => "Linescore"
  | .linescoreRow => "LinescoreRow"
  | .other => "Other"

/-- The sentence about a sort. Columns are counted from one. -/
def SortReport.sentence (report : SortReport) : String :=
  "Sorted " ++ report.tableId ++ " by column " ++ (report.column + 1).repr ++ " "
    ++ report.applied.title ++ " (" ++ report.swaps.repr ++ " swaps"
    ++ (if report.flipped then ", already ascending so flipped" else "") ++ ")"

/-- The line about an element. -/
def Element.line (element : Element) : String :=
  let round := match element.round with
    | some round => " R" ++ round.text
    | none => ""
  "[" ++ element.kind.title ++ round ++ "] " ++ element.text

/-- The widgets that choose what is shown of a page. Those of the selection are lit. -/
def Page.selectionBar (page : Page) (selection : Selection) : List Widget :=
  [.label "Player:", .choice "All" selection.participant.isNone (.event .participantReset)]
    ++ (page.participants.map fun player =>
      .choice player.name (selection.participant = some player) (.event (.participantClick player)))
    ++ [.label "Round:", .choice "All rounds" selection.round.isNone (.event .roundReset)]
    ++ page.rounds.map fun round =>
      .choice ("R" ++ round.text) (selection.round = some round) (.event (.roundSelect round))

/-- The elements of a page that are drawn. -/
def Page.visibleElements (page : Page) (render : Render) : List Element :=
  page.elements.filter fun element => render.isVisible (.element element.id)

/-- The widgets of the elements of a page. -/
def Page.elementWidgets (page : Page) (render : Render) : List Widget :=
  match page.visibleElements render with
  | [] => []
  | visible => .label "Charts & line scores" :: visible.map fun element => .label element.line

namespace Board

/-- What is drawn: what was last told, or the whole page at first. -/
def render (board : Board) : Render :=
  board.drawn.getD board.store.render

/-- The widgets of the board. -/
def widgets (board : Board) : List Widget :=
  let page := board.store.page
  let render := board.render
  let offset := board.store.settings.cellOffset.toNat
  [.label page.title, .button "Load another feed" .loadAnother]
    ++ page.selectionBar render.selection
    ++ (board.lastError.map fun error => Widget.label error.message).toList
    ++ (board.lastSort.map fun report => Widget.label report.sentence).toList
    ++ (page.tables.flatMap fun table => table.widgets render offset)
    ++ page.elementWidgets render

/-- What clicks on the widgets at some positions ask for, from top to bottom. -/
def actions (board : Board) (clicked : List Nat) : List Action :=
  (board.widgets.zipIdx.filter fun entry => entry.2 ∈ clicked).filterMap fun entry => entry.1.action

/-- The events among the things that were asked for. -/
def eventsOf (actions : List Action) : List Event :=
  actions.filterMap fun
    | .event event => some event
    | _ => none

/-- The board after an event. -/
def take (clock : Int) (board : Board) (event : Event) : Board :=
  match board.store.handle clock event with
  | .ok (store, render) =>
    { store := store
      drawn := some render
      lastSort := render.sort <|> board.lastSort
      lastError := none }
  | .error error => { board with lastError := some error }

/-- The board after a frame in which the widgets at some positions were clicked; none, if one of
    them was the button that goes back. -/
def frame (clock : Int) (clicked : List Nat) (board : Board) : Option Board :=
  let actions := board.actions clicked
  if .loadAnother ∈ actions then none
  else some ((eventsOf actions).foldl (take clock) { board with drawn := some board.render })

end Board

end Scoreboard
