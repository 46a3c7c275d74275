import Scoreboard.Screen.Load
import Scoreboard.Screen.Widget
import Scoreboard.Text.Blank

/-!
# Frames of the load screen

A frame takes what the user did since the last one, draws, and reacts while it draws: what stands
further down shows what was clicked further up.

## Main definitions

- `LoadInput` — what was done since the last frame
- `LoadView` — what a frame of the load screen shows
- `LoadFrame` — a frame: what it shows and what it leaves behind
- `LoadScreen.frame` — the next frame
- `LoadView.widgets` — the widgets of what is shown
-/

namespace Scoreboard

/-- What was done since the last frame. -/
structure LoadInput where
  /-- The content of the text field, if someone typed there. -/
  typed : Option String := none
  /-- The file, if one was chosen. -/
  chosen : Option String := none
  /-- How many events of the reader can be taken. -/
  arrivals : Nat := 0
  /-- The button that starts reading was clicked. -/
  parse : Bool := false
  /-- The button that accepts warnings was clicked. -/
  accept : Bool := false
  /-- The button that goes on to the page was clicked. -/
  advance : Bool := false

/-- How far reading is. -/
inductive ParseStatus where
  /-- Nothing was read yet. -/
  | idle
  /-- A feed is being read. -/
  | running (lines errors : Nat)
  /-- A feed was read without an error. -/
  | done (lines : Nat)
  /-- There is no page. -/
  | failed (failure : ParseFailure)
  deriving DecidableEq

/-- What a frame of the load screen shows. -/
structure LoadView where
  /-- The content of the text field. -/
  field : String
  /-- The button that starts reading can be used. -/
  canParse : Bool
  /-- How far reading is. -/
  status : ParseStatus
  problems : List ParseProblem
  warnings : List Warning
  /-- The button that accepts warnings is there. -/
  offersAccept : Bool
  /-- The button that goes on to the page can be used. -/
  canAdvance : Bool

/-- A frame of the load screen. -/
structure LoadFrame where
  view : LoadView
  path : Option String
  screen : LoadScreen
  /-- It goes on to the page. -/
  advances : Bool

/-- The path after typing. Blanks at the ends of a new content are dropped, and nothing else is no
    path. -/
def pathAfterTyping (typed : Option String) (path : Option String) : Option String :=
  match typed with
  | none => path
  | some text =>
    if text = path.getD "" then path
    else
      let trimmed := Text.trim text
      if trimmed.isEmpty then none else some trimmed

/-- The path in use: the path without the blanks at its ends, unless it is blank. -/
def pathInUse (path : Option String) : Option String :=
  (path.map Text.trim).filter fun path => !path.isEmpty

namespace LoadScreen

/-- How far reading is. -/
def status (screen : LoadScreen) : ParseStatus :=
  if screen.parsing then .running screen.lines screen.errorCount
  else if screen.succeeded then .done screen.lines
  else
    match screen.failure with
    | some failure => .failed failure
    | none => .idle

/-- There are warnings that nobody has accepted yet. -/
def offersAccept (screen : LoadScreen) : Bool :=
  !screen.warnings.isEmpty && !screen.accepted

/-- The feed at the path in use was read without an error, and its warnings were accepted. -/
def canAdvance (screen : LoadScreen) (inUse : Option String) : Bool :=
  screen.succeeded && !screen.parsing && inUse.isSome && inUse = screen.parsedPath
    && !screen.offersAccept

/-- The screen after a click on the button that starts reading, if it was clicked and could be. -/
def parseIf (clicked : Bool) (files : FileTree) (inUse : Option String) (screen : LoadScreen) :
    LoadScreen :=
  match inUse with
  | some path => if clicked && !screen.parsing then screen.parse files path else screen
  | none => screen

/-- The screen after a click on the button that accepts warnings, if it was clicked and was
    there. -/
def acceptIf (clicked : Bool) (screen : LoadScreen) : LoadScreen :=
  if clicked && screen.offersAccept then { screen with accepted := true } else screen

/-- The screen as a frame finds it below the text field. -/
def refresh (inUse : Option String) (arrivals : Nat) (screen : LoadScreen) : LoadScreen :=
  let screen := screen.forget inUse
  if screen.parsing then screen.pump arrivals else screen

/-- The next frame. -/
def frame (files : FileTree) (input : LoadInput) (path : Option String) (screen : LoadScreen) :
    LoadFrame :=
  let newPath := input.chosen <|> pathAfterTyping input.typed path
  let inUse := pathInUse newPath
  let fresh := screen.refresh inUse input.arrivals
  let parsed := fresh.parseIf input.parse files inUse
  let accepted := parsed.acceptIf input.accept
  let canAdvance := accepted.canAdvance inUse
  { view :=
      { field := input.typed.getD (path.getD "")
        canParse := inUse.isSome && !fresh.parsing
        status := parsed.status
        problems := parsed.problems
        warnings := parsed.warnings
        offersAccept := parsed.offersAccept
        canAdvance := canAdvance }
    path := newPath
    screen := accepted
    advances := input.advance && canAdvance }

end LoadScreen

/-- The text of how far reading is. -/
def ParseStatus.text? : ParseStatus → Option String
  | idle => none
  | running lines errors =>
    some ("Parsing... lines: " ++ lines.repr ++ " | errors: " ++ errors.repr)
  | done lines => some ("Parse completed. lines: " ++ lines.repr ++ " | errors: 0")
  | failed failure => some failure.message

/-- A list under a heading; nothing, if the list is empty. -/
def headedList (heading : String) (texts : List String) : List Widget :=
  if texts.isEmpty then [] else .label heading :: texts.map .label

/-- The widgets of what is shown. -/
def LoadView.widgets (view : LoadView) : List Widget :=
  [.label "Scoregrid",
    .label "Select a scoreboard feed (.ndjson)",
    .label "Feed file:",
    .field view.field "Enter feed path...",
    { kind := .button, text := "Choose file" },
    .button "Parse" .parse view.canParse]
    ++ (view.status.text?.map Widget.label).toList
    ++ headedList "Parse Errors" (view.problems.map ParseProblem.message)
    ++ headedList "Parse Warnings" (view.warnings.map Warning.message)
    ++ (if view.offersAccept then [.button "Proceed despite warnings" .accept] else [])
    ++ [.button "Continue" .advance view.canAdvance]

end Scoreboard
