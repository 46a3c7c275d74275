import Scoreboard.Screen.Board
import Scoreboard.Screen.LoadFrame

/-!
# The application

The application shows one of two screens and changes from one to the other. It runs in frames.

## Main definitions

- `App` — the state of the application
- `App.frame` — the next frame
- `App.run` — a series of frames

## Design notes

The load screen keeps its state while the board is shown. The page and the settings move from it to
the store of the board, so they can be shown only once. Which screen is shown and whether there is a
board are kept apart: a frame that should show a board that is not there says so.
-/

namespace Scoreboard

/-- What the application asks of the machine it runs on. -/
structure Host where
  files : FileTree := {}
  /-- The year that the clock says. -/
  year : Int

/-- The screens of the application. -/
inductive Screen where
  | load
  | board
  deriving DecidableEq

/-- The state of the application. -/
structure App where
  /-- The path of the feed. -/
  path : Option String := none
  /-- The state of the load screen. -/
  load : LoadScreen := {}
  /-- The screen that is shown. -/
  screen : Screen := .load
  /-- The board, if a page was gone on to. -/
  board : Option Board := none

/-- What was done since the last frame, for either screen. -/
structure Input where
  /-- What was done to the load screen. -/
  load : LoadInput := {}
  /-- The positions of the widgets of the board that were clicked. -/
  clicked : List Nat := []

namespace App

/-- What is said in place of a board that is not there. -/
def noBoard : String :=
  "Scoreboard data missing. Go back to Load Data."

/-- The application goes on to the page that was read. Without a page or settings it stays where it
    is. -/
def advance (app : App) : App :=
  match app.load.page, app.load.settings with
  | some page, some settings =>
    { app with
      load := { app.load with page := none, settings := none }
      screen := .board
      board := some { store := Store.new page settings } }
  | _, _ => { app with load := { app.load with page := none } }

/-- The application after a frame, and what the frame shows. -/
def frame (host : Host) (input : Input) (app : App) : App × List Widget :=
  match app.screen with
  | .load =>
    let frame := app.load.frame host.files input.load app.path
    let next := { app with path := frame.path, load := frame.screen }
    (if frame.advances then next.advance else next, frame.view.widgets)
  | .board =>
    match app.board with
    | some board =>
      let next := match board.frame host.year input.clicked with
        | some board => { app with board := some board }
        | none => { app with board := none, screen := .load }
      (next, board.widgets)
    | none => (app, [.label noBoard])

/-- The application after a series of frames, in each of which the machine may be another one. -/
def run (app : App) (inputs : List (Host × Input)) : App :=
  inputs.foldl (fun app input => (app.frame input.1 input.2).1) app

end App

end Scoreboard
