import Scoreboard.Proofs.Feed.Told
import Scoreboard.Proofs.Screen.History
import Scoreboard.Proofs.Screen.Pump

/-!
# Stages of the load screen

What the load screen knows is told by what happened: there is no page, or the feed that was asked
for last is being read, or it was read without an error. In the last case its page is there until
the application goes on to it.

## Main definitions

- `LoadScreen.Stage` — the state of the load screen after a history
- `App.Follows` — the state of the application after a history

## Main statements

- `LoadScreen.Stage.of_page` — a page that is there is that of the feed that was asked for last
- `LoadScreen.Stage.frame` — a frame of the load screen goes from stage to stage
- `App.follows_run` — the application follows what happens in it

## Design notes

The flags of the load screen are set in many places, but every part of a frame goes from stage to
stage, and each has one lemma for that. While a feed is being read the whole screen is told by the
events that were taken, so a stage says no more of it.
-/

namespace Scoreboard

/-- The state of the load screen after a history. -/
inductive LoadScreen.Stage (history : List Happening) (screen : LoadScreen) : Prop where
  /-- There is no page, and none to come. -/
  | without (hparsing : screen.parsing = false) (hsucceeded : screen.succeeded = false)
      (hwaiting : screen.waiting = none) (hpage : screen.page = none)
      (hfailure : screen.failure ≠ some .disconnected)
  /-- The feed that was asked for last is being read; `events` are still to come, at least the last
      one. -/
  | reading {files : FileTree} {path : String} {since : List Happening} {settings : Settings}
      {events : List FeedEvent} (hasked : AskedLast history files path since)
      (hload : Settings.load files (FilePath.folder path) = .ok settings)
      (htold : since.filterMap Happening.told? ++ events =
        Feed.eventsOfFile files path settings.presentation.progressEvery.toNat)
      (hshown : ∀ happening ∈ since, happening.isShown = false) (hnext : events ≠ [])
      (hscreen : screen =
        during path settings (since.filterMap Happening.told?) events)
  /-- The feed that was asked for last was read without an error. Its page and settings are there
      until the application goes on to them. -/
  | finished {files : FileTree} {path : String} {since later : List Happening}
      {settings : Settings} {outcome : FeedOutcome}
      (hread : ReadLast history files path settings outcome since later)
      (hparsing : screen.parsing = false) (hsucceeded : screen.succeeded = true)
      (hwaiting : screen.waiting = none) (hpath : screen.parsedPath = some path)
      (hwarnings : screen.warnings = outcome.warnings)
      (haccepted : screen.accepted = true → .accepted ∈ later)
      (hfailure : screen.failure ≠ some .disconnected)
      (hpage : (screen.page = some outcome.page ∧ screen.settings = some settings ∧
          ∀ happening ∈ since, happening.isShown = false) ∨
        (screen.page = none ∧ ∃ happening ∈ since, happening.isShown = true))

theorem ReadLast.exists_read {history since later : List Happening} {files : FileTree}
    {path : String} {settings : Settings} {outcome : FeedOutcome}
    (h : ReadLast history files path settings outcome since later) :
    ∃ lines, (Feed.read settings.presentation.progressEvery.toNat lines).1 = .ok outcome := by
  obtain ⟨earlier, hsince⟩ := h.finished
  have htold : .finished outcome ∈ since.filterMap Happening.told? := by
    rw [hsince]
    exact List.mem_filterMap.2 ⟨_, List.mem_append_right _ List.mem_cons_self, rfl⟩
  rw [h.told] at htold
  exact Feed.exists_read_of_finished htold

namespace LoadScreen.Stage

variable {history : List Happening} {screen : LoadScreen}

/-- A page that is there is that of the feed that was asked for last, and so are the settings. -/
theorem of_page (h : Stage history screen) {page : Page} (hpage : screen.page = some page) :
    ∃ files path settings outcome since later,
      ReadLast history files path settings outcome since later ∧ outcome.page = page ∧
        screen.settings = some settings := by
  cases h with
  | without _ _ _ hnone => rw [hnone] at hpage; cases hpage
  | reading _ _ _ _ _ hscreen => rw [hscreen] at hpage; cases hpage
  | finished hread _ _ _ _ _ _ _ hkept =>
    rcases hkept with ⟨hfound, hsettings, -⟩ | ⟨hnone, -⟩
    · exact ⟨_, _, _, _, _, _, hread, Option.some_inj.1 (hfound.symm.trans hpage), hsettings⟩
    · rw [hnone] at hpage
      cases hpage

theorem exists_settings (h : Stage history screen) {page : Page} (hpage : screen.page = some page) :
    ∃ settings, screen.settings = some settings := by
  obtain ⟨-, -, settings, -, -, -, -, -, hsettings⟩ := h.of_page hpage
  exact ⟨settings, hsettings⟩

theorem exists_read (h : Stage history screen) {page : Page} (hpage : screen.page = some page) :
    ∃ every lines outcome, (Feed.read every lines).1 = .ok outcome ∧ outcome.page = page := by
  obtain ⟨files, path, settings, outcome, since, later, hread, houtcome, -⟩ := h.of_page hpage
  obtain ⟨lines, hlines⟩ := hread.exists_read
  exact ⟨_, lines, outcome, hlines, houtcome⟩

/-- The reader is not gone without a last word. -/
theorem failure_ne (h : Stage history screen) : screen.failure ≠ some .disconnected := by
  cases h with
  | without _ _ _ _ hfailure => exact hfailure
  | reading _ _ _ _ _ hscreen => rw [hscreen]; exact nofun
  | finished _ _ _ _ _ _ _ hfailure => exact hfailure

theorem forget (h : Stage history screen) (inUse : Option String) :
    Stage history (screen.forget inUse) := by
  unfold LoadScreen.forget
  split
  · next hchanged => exact .without (Bool.eq_false_iff.2 hchanged.2) rfl rfl rfl nofun
  · exact h

/-- A reader that is asked has something to tell. -/
theorem waiting_ne (h : Stage history screen) : screen.waiting ≠ some [] := by
  cases h with
  | without _ _ hwaiting => rw [hwaiting]; exact nofun
  | reading _ _ _ _ hnext hscreen => rw [hscreen]; exact mt Option.some_inj.1 hnext
  | finished _ _ _ hwaiting => rw [hwaiting]; exact nofun

theorem take (h : Stage history screen) {event : FeedEvent} {events : List FeedEvent}
    (hwaiting : screen.waiting = some (event :: events)) :
    Stage (history ++ [.told event]) (({ screen with waiting := some events } :
      LoadScreen).take event) := by
  cases h with
  | without _ _ hnone => rw [hnone] at hwaiting; cases hwaiting
  | finished _ _ _ hnone => rw [hnone] at hwaiting; cases hwaiting
  | @reading files path since settings _ hasked hload htold hshown _ hscreen =>
    -- The event moves over from what is still to come to what was told.
    rw [hscreen] at hwaiting ⊢
    obtain rfl := Option.some_inj.1 hwaiting
    have hasked' : AskedLast (history ++ [.told event]) files path (since ++ [.told event]) :=
      hasked.append (List.forall_mem_singleton.2 rfl)
    have hmoved : (since ++ [Happening.told event]).filterMap Happening.told? =
        since.filterMap Happening.told? ++ [event] := by
      rw [List.filterMap_append]
      rfl
    have htold' : (since ++ [Happening.told event]).filterMap Happening.told? ++ events =
        Feed.eventsOfFile files path settings.presentation.progressEvery.toNat := by
      rw [← htold, hmoved, List.append_assoc]
      rfl
    have hshown' : ∀ happening ∈ since ++ [.told event], happening.isShown = false :=
      List.forall_mem_append.2 ⟨hshown, List.forall_mem_singleton.2 rfl⟩
    cases hlast : event.isLast with
    | false =>
      refine .reading hasked' hload htold' hshown' (Feed.ne_nil_of_eventsOfFile htold hlast) ?_
      rw [hmoved]
      exact take_during path settings hlast (Feed.eq_nil_of_started htold) events
    | true =>
      cases event with
      | finished outcome =>
        -- Nothing is left to be told after that.
        rw [Feed.eq_nil_of_eventsOfFile htold rfl, List.append_nil] at htold'
        unfold LoadScreen.take
        dsimp only
        split
        · next herrors =>
          exact .finished ⟨hasked', hload, htold', ⟨since, rfl⟩, herrors⟩ rfl rfl rfl rfl rfl nofun
            nofun (.inl ⟨rfl, rfl, hshown'⟩)
        · exact .without rfl rfl rfl rfl nofun
      | failed failure => exact .without rfl rfl rfl rfl nofun
      | _ => cases hlast

theorem pump (h : Stage history screen) (arrivals : Nat) :
    Stage (history ++ (screen.heard arrivals).map .told) (screen.pump arrivals) := by
  induction arrivals generalizing history screen with
  | zero =>
    rw [heard, LoadScreen.pump, List.map_nil, List.append_nil]
    exact h
  | succ arrivals ih =>
    unfold heard LoadScreen.pump
    cases hwaiting : screen.waiting with
    | none =>
      rw [List.map_nil, List.append_nil]
      exact h
    | some waiting =>
      cases waiting with
      | nil => exact absurd hwaiting h.waiting_ne
      | cons event events =>
        have hrest := ih (h.take hwaiting)
        rw [List.append_assoc] at hrest
        exact hrest

theorem refresh (h : Stage history screen) (inUse : Option String) (arrivals : Nat) :
    Stage (history ++ screen.tellings inUse arrivals) (screen.refresh inUse arrivals) := by
  unfold tellings LoadScreen.refresh
  dsimp only
  split
  · exact (h.forget inUse).pump arrivals
  · rw [List.append_nil]
    exact h.forget inUse

theorem parse (history : List Happening) (files : FileTree) (path : String)
    (screen : LoadScreen) :
    Stage (history ++ [.asked files path]) (screen.parse files path) := by
  unfold LoadScreen.parse
  cases checkPath files path with
  | error fault => exact .without rfl rfl rfl rfl nofun
  | ok =>
    cases hload : Settings.load files (FilePath.folder path) with
    | error failure => exact .without rfl rfl rfl rfl nofun
    | ok settings =>
      exact .reading (askedLast_asked history files path) hload rfl
        (fun _ hmem => absurd hmem List.not_mem_nil) (Feed.eventsOfFile_ne_nil files path _) rfl

theorem parseIf (h : Stage history screen) (clicked : Bool) (files : FileTree)
    (inUse : Option String) :
    Stage (history ++ screen.askings clicked files inUse)
      (screen.parseIf clicked files inUse) := by
  unfold askings LoadScreen.parseIf
  cases inUse with
  | none =>
    rw [List.append_nil]
    exact h
  | some path =>
    dsimp only
    split
    · exact parse history files path screen
    · rw [List.append_nil]
      exact h

theorem accept (h : Stage history screen) (hoffers : screen.offersAccept = true) :
    Stage (history ++ [.accepted]) { screen with accepted := true } := by
  cases h with
  | without hparsing hsucceeded hwaiting hpage hfailure =>
    exact .without hparsing hsucceeded hwaiting hpage hfailure
  | reading _ _ _ _ _ hscreen =>
    -- There are no warnings before the feed is read.
    rw [hscreen] at hoffers
    cases hoffers
  | finished hread hparsing hsucceeded hwaiting hpath hwarnings _ hfailure hkept =>
    refine .finished (hread.concat rfl rfl) hparsing hsucceeded hwaiting hpath hwarnings
      (fun _ => List.mem_append_right _ List.mem_cons_self) hfailure ?_
    rcases hkept with ⟨hpage, hsettings, hshown⟩ | ⟨hpage, happening, hmem, hshown⟩
    · exact .inl ⟨hpage, hsettings,
        List.forall_mem_append.2 ⟨hshown, List.forall_mem_singleton.2 rfl⟩⟩
    · exact .inr ⟨hpage, happening, List.mem_append_left _ hmem, hshown⟩

theorem acceptIf (h : Stage history screen) (clicked : Bool) :
    Stage (history ++ screen.acceptings clicked) (screen.acceptIf clicked) := by
  unfold acceptings LoadScreen.acceptIf
  split
  · next hoffers => exact h.accept (Bool.and_eq_true_iff.1 hoffers).2
  · rw [List.append_nil]
    exact h

/-- A frame of the load screen goes from stage to stage. -/
theorem frame (h : Stage history screen) (files : FileTree) (input : LoadInput)
    (path : Option String) :
    Stage (history ++ screen.happenings files input (input.inUse path))
      (screen.frame files input path).screen := by
  rw [screen_frame]
  have hparsed := (h.refresh (input.inUse path) input.arrivals).parseIf input.parse files
    (input.inUse path)
  have haccepted := hparsed.acceptIf input.accept
  rw [List.append_assoc, List.append_assoc, ← List.append_assoc (screen.tellings _ _)] at haccepted
  exact haccepted

/-- The page and the settings move on to a board. -/
theorem goOn (h : Stage history screen) {page : Page} (hpage : screen.page = some page)
    (store : Store) :
    Stage (history ++ [.shown store]) { screen with page := none, settings := none } := by
  cases h with
  | without _ _ _ hnone => rw [hnone] at hpage; cases hpage
  | reading _ _ _ _ _ hscreen => rw [hscreen] at hpage; cases hpage
  | finished hread hparsing hsucceeded hwaiting hpath hwarnings haccepted hfailure _ =>
    exact .finished (hread.concat rfl rfl) hparsing hsucceeded hwaiting hpath hwarnings
      (fun h => List.mem_append_left _ (haccepted h)) hfailure
      (.inr ⟨rfl, _, List.mem_append_right _ List.mem_cons_self, rfl⟩)

end LoadScreen.Stage

namespace App

/-- The state of the application after a history. -/
structure Follows (history : List Happening) (app : App) : Prop where
  stage : app.load.Stage history
  /-- Where the board is to be shown, there is one. -/
  board : app.screen = .board → app.board.isSome = true

theorem frame_load {app : App} (hscreen : app.screen = .load) (host : Host) (input : Input) :
    app.frame host input =
      let frame := app.load.frame host.files input.load app.path
      let next := { app with path := frame.path, load := frame.screen }
      (if frame.advances then next.advance else next, frame.view.widgets) := by
  unfold App.frame
  rw [hscreen]

theorem happenings_load {app : App} (hscreen : app.screen = .load) (host : Host) (input : Input) :
    app.happenings host input =
      app.load.happenings host.files input.load (input.load.inUse app.path)
        ++ (app.frame host input).1.showings := by
  unfold happenings
  rw [hscreen]

theorem advance_of_page {app : App} {page : Page} {settings : Settings}
    (hpage : app.load.page = some page) (hsettings : app.load.settings = some settings) :
    app.advance =
      { app with
        load := { app.load with page := none, settings := none }
        screen := .board
        board := some { store := Store.new page settings } } := by
  unfold advance
  rw [hpage, hsettings]

/-- Without a page the application stays as it is. -/
theorem advance_of_noPage {app : App} (hpage : app.load.page = none) : app.advance = app := by
  have hload : { app.load with page := none } = app.load := by
    rw [← hpage]
  unfold advance
  rw [hpage]
  dsimp only
  rw [hload]

variable {history : List Happening} {app : App}

theorem Follows.load (h : Follows history app) (hscreen : app.screen = .load) (host : Host)
    (input : Input) :
    Follows (history ++ app.happenings host input) (app.frame host input).1 := by
  have hleft := h.stage.frame host.files input.load app.path
  rw [happenings_load hscreen, ← List.append_assoc, frame_load hscreen]
  dsimp only
  generalize history ++ app.load.happenings host.files input.load (input.load.inUse app.path) =
    history' at hleft ⊢
  generalize app.load.frame host.files input.load app.path = frame at hleft ⊢
  -- Without going on to a board, what the frame leaves behind is all there is.
  have hstay : Follows (history' ++ showings { app with path := frame.path, load := frame.screen })
      { app with path := frame.path, load := frame.screen } := by
    have hnone : showings { app with path := frame.path, load := frame.screen } = [] := by
      unfold showings
      rw [hscreen]
    rw [hnone, List.append_nil]
    exact ⟨hleft, h.board⟩
  split
  · cases hpage : frame.screen.page with
    | none =>
      rw [advance_of_noPage hpage]
      exact hstay
    | some page =>
      obtain ⟨settings, hsettings⟩ := hleft.exists_settings hpage
      rw [advance_of_page hpage hsettings]
      exact ⟨hleft.goOn hpage _, fun _ => rfl⟩
  · exact hstay

theorem Follows.frame (h : Follows history app) (host : Host) (input : Input) :
    Follows (history ++ app.happenings host input) (app.frame host input).1 := by
  cases hscreen : app.screen with
  | load => exact h.load hscreen host input
  | board =>
    have hnothing : app.happenings host input = [] := by
      unfold happenings
      rw [hscreen]
    obtain ⟨board, hboard⟩ := Option.isSome_iff_exists.1 (h.board hscreen)
    rw [hnothing, List.append_nil]
    unfold App.frame
    rw [hscreen, hboard]
    dsimp only
    split
    · exact ⟨h.stage, fun _ => rfl⟩
    · refine ⟨h.stage, fun hload => ?_⟩
      cases hload

theorem Follows.run (h : Follows history app) (inputs : List (Host × Input)) :
    Follows (history ++ app.history inputs) (app.run inputs) := by
  induction inputs generalizing app history with
  | nil =>
    rw [App.history, List.append_nil]
    exact h
  | cons input rest ih =>
    obtain ⟨host, input⟩ := input
    have hrest := ih (h.frame host input)
    rw [List.append_assoc] at hrest
    exact hrest

theorem follows_start : Follows [] {} where
  stage := .without rfl rfl rfl rfl nofun
  board := by
    intro hboard
    cases hboard

/-- The application follows what happens in it. -/
theorem follows_run (inputs : List (Host × Input)) :
    Follows (({} : App).history inputs) (({} : App).run inputs) :=
  follows_start.run inputs

end App

end Scoreboard
