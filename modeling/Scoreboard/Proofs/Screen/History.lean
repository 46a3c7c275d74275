import Scoreboard.Screen.App

/-!
# What happens in a run

The history of a run of the application lists what happens in it, in the order in which it happens,
also within a frame. It is told from what was done in each frame and from the state in which the
frame found the application.

## Main definitions

- `Happening` — something that happens in a run
- `App.history` — what happens in a run
- `AskedLast` — what happened since a feed was asked for last
- `ReadLast` — the feed that was asked for last was read to its end without an error

## Main statements

- `App.history_concat` — what happens in one more frame comes last
- `LoadScreen.screen_frame` — what a frame of the load screen leaves behind, step by step

## Design notes

Within a frame of the load screen, what the reader tells is taken first. Then a feed can be asked
for, then warnings can be accepted, and last the application can go on to the page.
-/

namespace Scoreboard

/-- Something that happens in a run of the application. -/
inductive Happening where
  /-- Somebody asks for the feed at a path; the files are those of that moment. -/
  | asked (files : FileTree) (path : String)
  /-- What the reader tells is taken. -/
  | told (event : FeedEvent)
  /-- Warnings are accepted. -/
  | accepted
  /-- The application goes on to a board. -/
  | shown (store : Store)

namespace Happening

/-- Somebody asks for a feed. -/
def isAsked : Happening → Bool
  | asked _ _ => true
  | _ => false

/-- The application goes on to a board. -/
def isShown : Happening → Bool
  | shown _ => true
  | _ => false

/-- What the reader tells, if it tells something. -/
def told? : Happening → Option FeedEvent
  | told event => some event
  | _ => none

end Happening

/-- What happened since a feed was asked for last. -/
structure AskedLast (history : List Happening) (files : FileTree) (path : String)
    (since : List Happening) : Prop where
  /-- All that is `since` comes after somebody asked for the feed. -/
  asked : ∃ before, history = before ++ .asked files path :: since
  /-- Nobody asked for a feed after that. -/
  last : ∀ happening ∈ since, happening.isAsked = false

theorem askedLast_asked (history : List Happening) (files : FileTree) (path : String) :
    AskedLast (history ++ [.asked files path]) files path [] :=
  ⟨⟨history, rfl⟩, fun _ hmem => absurd hmem List.not_mem_nil⟩

theorem AskedLast.append {history since : List Happening} {files : FileTree} {path : String}
    (h : AskedLast history files path since) {more : List Happening}
    (hmore : ∀ happening ∈ more, happening.isAsked = false) :
    AskedLast (history ++ more) files path (since ++ more) := by
  obtain ⟨⟨before, hbefore⟩, hlast⟩ := h
  refine ⟨⟨before, ?_⟩, fun happening hmem => ?_⟩
  · rw [hbefore, List.append_assoc, List.cons_append]
  · exact (List.mem_append.1 hmem).elim (hlast happening) (hmore happening)

/-- The feed that was asked for last was read to its end without an error. All that its reader had
    to tell was taken `since`, and `later` is what happened after its last word. -/
structure ReadLast (history : List Happening) (files : FileTree) (path : String)
    (settings : Settings) (outcome : FeedOutcome) (since later : List Happening) : Prop where
  asked : AskedLast history files path since
  /-- The settings are those that stood beside the feed. -/
  settings_eq : Settings.load files (FilePath.folder path) = .ok settings
  /-- What was told is what there was to tell of the feed. -/
  told : since.filterMap Happening.told? =
    Feed.eventsOfFile files path settings.presentation.progressEvery.toNat
  /-- The last word was that the feed was read. -/
  finished : ∃ earlier, since = earlier ++ .told (.finished outcome) :: later
  /-- No line was refused. -/
  errors : outcome.errors = 0

theorem ReadLast.concat {history since later : List Happening} {files : FileTree} {path : String}
    {settings : Settings} {outcome : FeedOutcome}
    (h : ReadLast history files path settings outcome since later) {happening : Happening}
    (hasked : happening.isAsked = false) (htold : happening.told? = none) :
    ReadLast (history ++ [happening]) files path settings outcome (since ++ [happening])
      (later ++ [happening]) where
  asked := h.asked.append (List.forall_mem_singleton.2 hasked)
  settings_eq := h.settings_eq
  told := by
    rw [List.filterMap_append, h.told, List.filterMap_cons_none htold]
    exact List.append_nil _
  finished := by
    obtain ⟨earlier, hearlier⟩ := h.finished
    refine ⟨earlier, ?_⟩
    rw [hearlier, List.append_assoc]
    rfl
  errors := h.errors

/-- The path after what was done to the load screen. -/
def LoadInput.newPath (input : LoadInput) (path : Option String) : Option String :=
  input.chosen <|> pathAfterTyping input.typed path

/-- The path in use after what was done to the load screen. -/
def LoadInput.inUse (input : LoadInput) (path : Option String) : Option String :=
  pathInUse (input.newPath path)

namespace LoadScreen

/-- What the reader tells within so many arrivals. -/
def heard : Nat → LoadScreen → List FeedEvent
  | 0, _ => []
  | arrivals + 1, screen =>
    match screen.waiting with
    | some (event :: events) =>
      event :: heard arrivals (({ screen with waiting := some events } : LoadScreen).take event)
    | _ => []

/-- What the reader tells in a frame. -/
def tellings (inUse : Option String) (arrivals : Nat) (screen : LoadScreen) : List Happening :=
  let screen := screen.forget inUse
  if screen.parsing then (screen.heard arrivals).map .told else []

/-- A feed is asked for, if the button was clicked and could be. -/
def askings (clicked : Bool) (files : FileTree) (inUse : Option String) (screen : LoadScreen) :
    List Happening :=
  match inUse with
  | some path => if clicked && !screen.parsing then [.asked files path] else []
  | none => []

/-- Warnings are accepted, if the button was clicked and was there. -/
def acceptings (clicked : Bool) (screen : LoadScreen) : List Happening :=
  if clicked && screen.offersAccept then [.accepted] else []

/-- What happens in a frame of the load screen, but for going on to the page. -/
def happenings (files : FileTree) (input : LoadInput) (inUse : Option String)
    (screen : LoadScreen) : List Happening :=
  let fresh := screen.refresh inUse input.arrivals
  let parsed := fresh.parseIf input.parse files inUse
  screen.tellings inUse input.arrivals ++ fresh.askings input.parse files inUse
    ++ parsed.acceptings input.accept

/-- What a frame of the load screen leaves behind, step by step. -/
theorem screen_frame (files : FileTree) (input : LoadInput) (path : Option String)
    (screen : LoadScreen) :
    (screen.frame files input path).screen =
      ((screen.refresh (input.inUse path) input.arrivals).parseIf input.parse files
        (input.inUse path)).acceptIf input.accept :=
  rfl

theorem advances_frame (files : FileTree) (input : LoadInput) (path : Option String)
    (screen : LoadScreen) :
    (screen.frame files input path).advances =
      (input.advance &&
        (screen.frame files input path).screen.canAdvance (input.inUse path)) := by
  rw [screen_frame]
  rfl

end LoadScreen

namespace App

/-- The boards that a frame of the load screen goes on to: one or none. -/
def showings (next : App) : List Happening :=
  match next.screen with
  | .load => []
  | .board => (next.board.map fun board => .shown board.store).toList

/-- What happens in a frame. -/
def happenings (host : Host) (input : Input) (app : App) : List Happening :=
  match app.screen with
  | .load =>
    app.load.happenings host.files input.load (input.load.inUse app.path)
      ++ (app.frame host input).1.showings
  | .board => []

/-- What happens in a series of frames. -/
def history (app : App) : List (Host × Input) → List Happening
  | [] => []
  | (host, input) :: rest => app.happenings host input ++ history (app.frame host input).1 rest

theorem history_append (app : App) (inputs more : List (Host × Input)) :
    app.history (inputs ++ more) = app.history inputs ++ (app.run inputs).history more := by
  induction inputs generalizing app with
  | nil => rfl
  | cons input rest ih =>
    obtain ⟨host, input⟩ := input
    rw [List.cons_append, history, history, ih, List.append_assoc]
    rfl

/-- What happens in one more frame comes last. -/
theorem history_concat (app : App) (inputs : List (Host × Input)) (host : Host) (input : Input) :
    app.history (inputs ++ [(host, input)]) =
      app.history inputs ++ (app.run inputs).happenings host input := by
  rw [history_append]
  exact congrArg _ (List.append_nil _)

end App

end Scoreboard
