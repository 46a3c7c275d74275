import Scoreboard.Feed.Reading
import Scoreboard.Settings.File

/-!
# The state of the load screen

The load screen has a feed read in the background and keeps what it was told of it.

## Main definitions

- `LoadScreen` — what the load screen knows of the feed it had read last
- `LoadScreen.take` — what it makes of one event
- `LoadScreen.pump` — what it makes of the events that have arrived
- `LoadScreen.parse` — the screen after a click on the button that starts reading
- `LoadScreen.forget` — the screen after the path was changed

## Design notes

The events that the reader has not been asked for yet stand in `waiting`, which is empty as long as
no feed is being read. How many of them have arrived by a frame is up to chance, so it is an input.
-/

namespace Scoreboard

/-- What is wrong with a path. -/
inductive PathFault where
  | nowhere (path : String)
  /-- It leads to a folder. -/
  | notFile (path : String)
  /-- The settings beside it are no file. -/
  | settingsNotFile (path : String)
  deriving DecidableEq

/-- The wording of what is wrong with a path. -/
def PathFault.message : PathFault → String
  | nowhere path => "Feed file does not exist: " ++ path
  | notFile path => "Path is not a file: " ++ path
  | settingsNotFile path => "config.toml exists but is not a file: " ++ path

/-- A problem in the list of problems. -/
inductive ParseProblem where
  /-- The path is of no use. -/
  | path (fault : PathFault)
  /-- The settings cannot be loaded. -/
  | settings (failure : SettingsFailure)
  /-- A line was refused. -/
  | line (number : Nat) (written : String) (error : LineError)
  /-- The feed makes no page. -/
  | feed (failure : FeedFailure)

/-- The wording of a problem. -/
def ParseProblem.message : ParseProblem → String
  | path fault => fault.message
  | settings failure => failure.message
  | line number written error => "Line " ++ number.repr ++ ": " ++ error.message written
  | feed failure => failure.message

/-- Why there is no page. -/
inductive ParseFailure where
  /-- The path is of no use. -/
  | path
  /-- The settings cannot be loaded. -/
  | settings
  /-- Some lines were refused. -/
  | lines (count : Nat)
  /-- The feed makes no page. -/
  | feed (failure : FeedFailure)
  /-- The reader is gone without a last word. -/
  | disconnected
  deriving DecidableEq

/-- The wording of why there is no page. -/
def ParseFailure.message : ParseFailure → String
  | path => "Invalid feed path"
  | settings => "Invalid config.toml"
  | lines count => "Parsing finished with " ++ count.repr ++ " error(s)"
  | feed failure => failure.message
  | disconnected => "Parser thread disconnected"

/-- What the load screen knows of the feed it had read last. -/
structure LoadScreen where
  /-- The events that are still to come; none if nobody is asked for them. -/
  waiting : Option (List FeedEvent) := none
  /-- A feed is being read. -/
  parsing : Bool := false
  /-- The feed was read without an error. -/
  succeeded : Bool := false
  /-- The path of the feed. -/
  parsedPath : Option String := none
  /-- How many lines were read. -/
  lines : Nat := 0
  /-- How many lines were refused. -/
  errorCount : Nat := 0
  /-- Why there is no page. -/
  failure : Option ParseFailure := none
  problems : List ParseProblem := []
  warnings : List Warning := []
  /-- The warnings were accepted. -/
  accepted : Bool := false
  page : Option Page := none
  /-- The settings beside the feed. -/
  settings : Option Settings := none

namespace LoadScreen

/-- How many problems are listed at most. -/
def problemLimit : Nat := 8

/-- The screen without what was learned from reading a feed. -/
def reset (screen : LoadScreen) : LoadScreen :=
  { screen with
    succeeded := false
    lines := 0
    errorCount := 0
    failure := none
    problems := []
    warnings := []
    accepted := false
    page := none }

/-- The screen with one more problem; the oldest one gives way if there are too many. -/
def addProblem (screen : LoadScreen) (problem : ParseProblem) : LoadScreen :=
  let problems := screen.problems ++ [problem]
  { screen with problems := if problemLimit < problems.length then problems.tail else problems }

/-- The screen after reading failed. -/
def fail (screen : LoadScreen) (failure : ParseFailure) : LoadScreen :=
  { screen with
    waiting := none
    parsing := false
    succeeded := false
    failure := some failure
    warnings := []
    accepted := false
    page := none
    settings := none }

/-- The screen after one event. -/
def take (screen : LoadScreen) : FeedEvent → LoadScreen
  | .started => { screen.reset with parsing := true }
  | .progress lines => { screen with lines }
  | .lineError number line error =>
    { screen.addProblem (.line number line error) with errorCount := screen.errorCount + 1 }
  | .finished outcome =>
    if outcome.errors = 0 then
      { screen with
        waiting := none
        parsing := false
        succeeded := true
        lines := outcome.lines
        errorCount := 0
        failure := none
        warnings := outcome.warnings
        accepted := false
        page := some outcome.page }
    else
      { screen.fail (.lines outcome.errors) with
        lines := outcome.lines
        errorCount := outcome.errors }
  | .failed failure => (screen.addProblem (.feed failure)).fail (.feed failure)

/-- The screen after the end of the events without a last one. -/
def disconnect (screen : LoadScreen) : LoadScreen :=
  screen.reset.fail .disconnected

/-- The screen after the events that have arrived, of which there are at most `arrivals`; the end of
    all events counts as one. -/
def pump : Nat → LoadScreen → LoadScreen
  | 0, screen => screen
  | arrivals + 1, screen =>
    match screen.waiting with
    | none => screen
    | some [] => screen.disconnect
    | some (event :: events) =>
      pump arrivals (({ screen with waiting := some events } : LoadScreen).take event)

/-- The path leads to a file, and there is no folder in place of the settings beside it. -/
def checkPath (files : FileTree) (path : String) : Except PathFault Unit :=
  match files.node? path with
  | none => .error (.nowhere path)
  | some .folder => .error (.notFile path)
  | some (.file _) =>
    let settings := Settings.path (FilePath.folder path)
    if files.node? settings = some .folder then .error (.settingsNotFile settings) else .ok ()

/-- The screen after a path was turned down. -/
def refuse (screen : LoadScreen) (path : String) (failure : ParseFailure) (problem : ParseProblem) :
    LoadScreen :=
  { screen.reset.fail failure with parsedPath := some path, problems := [problem] }

/-- The screen after a click on the button that starts reading. -/
def parse (files : FileTree) (path : String) (screen : LoadScreen) : LoadScreen :=
  match checkPath files path with
  | .error fault => screen.refuse path .path (.path fault)
  | .ok () =>
    match Settings.load files (FilePath.folder path) with
    | .error failure => screen.refuse path .settings (.settings failure)
    | .ok settings =>
      { screen.reset with
        waiting :=
          some (Feed.eventsOfFile files path settings.presentation.progressEvery.toNat)
        parsing := true
        parsedPath := some path
        settings := some settings }

/-- The screen once the path in use is `path`: what was learned from another one is forgotten,
    unless its feed is still being read. -/
def forget (path : Option String) (screen : LoadScreen) : LoadScreen :=
  if path ≠ screen.parsedPath ∧ ¬ screen.parsing then
    { screen.reset with waiting := none, settings := none }
  else
    screen

end LoadScreen

end Scoreboard
