import Mathlib.Logic.Basic
import Scoreboard.Proofs.Screen.Stage

/-!
# Going on to a page

The application goes on to the page that was read last, and to no other one. The button for that can
be used as long as the path stays the same, but the page is there for one use only.

## Main statements

- `App.run_goesOn` — what must have happened before the application goes on to a page
- `App.run_goesOn_once` — the button works once for each time that a feed is asked for

## Design notes

Both follow from the stage of the load screen at the end of a frame: where the button can be used, a
feed was read without an error, and the stage tells whether its page is still there.
-/

namespace Scoreboard

namespace LoadScreen

theorem canAdvance_iff {screen : LoadScreen} {inUse : Option String} :
    screen.canAdvance inUse = true ↔
      screen.succeeded = true ∧ screen.parsing = false ∧ inUse.isSome = true ∧
        inUse = screen.parsedPath ∧ screen.offersAccept = false := by
  simp [canAdvance, and_assoc]

theorem offersAccept_eq_false_iff {screen : LoadScreen} :
    screen.offersAccept = false ↔ screen.warnings = [] ∨ screen.accepted = true := by
  simp [offersAccept, or_iff_not_imp_left]

/-- Where the application can go on, the feed that was asked for last was read without an error from
    the path in use, and its warnings were accepted. Its page and settings are there unless the
    application went on to them before. -/
theorem Stage.of_canAdvance {history : List Happening} {screen : LoadScreen}
    (h : Stage history screen) {inUse : Option String}
    (hcan : screen.canAdvance inUse = true) :
    ∃ files path settings outcome since later,
      ReadLast history files path settings outcome since later ∧ inUse = some path ∧
        (outcome.warnings = [] ∨ .accepted ∈ later) ∧
        ((screen.page = some outcome.page ∧ screen.settings = some settings ∧
            ∀ happening ∈ since, happening.isShown = false) ∨
          (screen.page = none ∧ ∃ happening ∈ since, happening.isShown = true)) := by
  obtain ⟨hdone, -, -, hpath, hoffers⟩ := canAdvance_iff.1 hcan
  cases h with
  | without _ hsucceeded => rw [hsucceeded] at hdone; cases hdone
  | reading _ _ _ _ _ hscreen => rw [hscreen] at hdone; cases hdone
  | finished hread _ _ _ hparsed hwarnings haccepted _ hkept =>
    refine ⟨_, _, _, _, _, _, hread, hpath.trans hparsed, ?_, hkept⟩
    rw [← hwarnings]
    exact (offersAccept_eq_false_iff.1 hoffers).imp_right haccepted

theorem succeeded_parse (files : FileTree) (path : String) (screen : LoadScreen) :
    (screen.parse files path).succeeded = false := by
  unfold parse
  cases checkPath files path with
  | error fault => rfl
  | ok =>
    cases Settings.load files (FilePath.folder path) with
    | error failure => rfl
    | ok settings => rfl

theorem succeeded_acceptIf (clicked : Bool) (screen : LoadScreen) :
    (screen.acceptIf clicked).succeeded = screen.succeeded := by
  unfold acceptIf
  split
  · rfl
  · rfl

/-- Where a feed was read, none was asked for just before. -/
theorem askings_eq_nil {clicked : Bool} {files : FileTree} {inUse : Option String}
    {screen : LoadScreen} (hdone : (screen.parseIf clicked files inUse).succeeded = true) :
    screen.askings clicked files inUse = [] := by
  unfold askings
  unfold parseIf at hdone
  cases inUse with
  | none => rfl
  | some path =>
    by_cases hclicked : (clicked && !screen.parsing) = true
    · dsimp only at hdone
      rw [if_pos hclicked, succeeded_parse] at hdone
      cases hdone
    · exact if_neg hclicked

/-- Where the application can go on at the end of a frame, no feed was asked for in it, and nothing
    was gone on to before. -/
theorem quiet_of_canAdvance {files : FileTree} {input : LoadInput} {path : Option String}
    {screen : LoadScreen}
    (hcan : (screen.frame files input path).screen.canAdvance (input.inUse path) = true) :
    ∀ happening ∈ screen.happenings files input (input.inUse path),
      happening.isAsked = false ∧ happening.isShown = false := by
  obtain ⟨hdone, -⟩ := canAdvance_iff.1 hcan
  rw [screen_frame, succeeded_acceptIf] at hdone
  have hnoAsking := askings_eq_nil hdone
  intro happening hmem
  unfold happenings at hmem
  dsimp only at hmem
  rw [hnoAsking, List.append_nil] at hmem
  rcases List.mem_append.1 hmem with htelling | haccepting
  · unfold tellings at htelling
    dsimp only at htelling
    split at htelling
    · obtain ⟨event, -, rfl⟩ := List.mem_map.1 htelling
      exact ⟨rfl, rfl⟩
    · cases htelling
  · unfold acceptings at haccepting
    split at haccepting
    · rw [List.mem_singleton.1 haccepting]
      exact ⟨rfl, rfl⟩
    · cases haccepting

end LoadScreen

/-- What happened since a feed was asked for, but for the last of it. -/
theorem AskedLast.of_append {history more since : List Happening} {files : FileTree} {path : String}
    (h : AskedLast (history ++ more) files path since)
    (hmore : ∀ happening ∈ more, happening.isAsked = false) :
    ∃ since', AskedLast history files path since' ∧ since = since' ++ more := by
  obtain ⟨⟨before, hbefore⟩, hlast⟩ := h
  rcases List.append_eq_append_iff.1 hbefore with
    ⟨middle, hbefore', hmore'⟩ | ⟨middle, hhistory, hrest⟩
  · -- The feed would have been asked for in the rest.
    have hasked := hmore _ (hmore' ▸ List.mem_append_right middle List.mem_cons_self)
    cases hasked
  · rcases List.cons_eq_append_iff.1 hrest with ⟨rfl, hmore'⟩ | ⟨since', rfl, hsince⟩
    · have hasked := hmore _ (hmore' ▸ List.mem_cons_self)
      cases hasked
    · refine ⟨since', ⟨⟨before, hhistory⟩, fun happening hmem => hlast happening ?_⟩, hsince⟩
      rw [hsince]
      exact List.mem_append_left _ hmem

theorem LoadView.continue_mem_widgets_iff (view : LoadView) :
    Widget.button "Continue" .advance ∈ view.widgets ↔ view.canAdvance = true := by
  have htexts (heading : String) (texts : List String) :
      Widget.button "Continue" .advance ∉ headedList heading texts := by
    unfold headedList
    split
    · exact List.not_mem_nil
    · simp [Widget.button, Widget.label]
  simp only [LoadView.widgets, List.mem_append, htexts, or_false]
  simp [Widget.button, Widget.label, Widget.field]

namespace App

variable {history : List Happening} {app : App}

theorem screen_frame_of_not_advances {host : Host} {input : Input} (hscreen : app.screen = .load)
    (hadvances : (app.load.frame host.files input.load app.path).advances = false) :
    (app.frame host input).1.screen = .load := by
  rw [frame_load hscreen]
  dsimp only
  rw [hadvances]
  exact hscreen

/-- What a frame of the load screen leads to once the application goes on. -/
theorem frame_of_advances {host : Host} {input : Input} (hscreen : app.screen = .load)
    (hadvances : (app.load.frame host.files input.load app.path).advances = true) :
    (app.frame host input).1 =
      ({ app with
        path := input.load.newPath app.path
        load := (app.load.frame host.files input.load app.path).screen } : App).advance := by
  rw [frame_load hscreen]
  dsimp only
  rw [hadvances]
  rfl

/-- Before the application goes on to a board, the feed that was asked for last was read without an
    error from the path in use, and its warnings were accepted. The board shows its page, with the
    settings beside it. -/
theorem Follows.goesOn (h : Follows history app) {host : Host} {input : Input}
    (hscreen : app.screen = .load) (hnext : (app.frame host input).1.screen = .board) :
    ∃ files path settings outcome since later,
      let before := history ++ app.load.happenings host.files input.load (input.load.inUse app.path)
      let store := Store.new outcome.page settings
      ReadLast before files path settings outcome since later ∧
        pathInUse (app.frame host input).1.path = some path ∧
        (outcome.warnings = [] ∨ .accepted ∈ later) ∧
        (app.frame host input).1.board = some { store := store } ∧
        app.happenings host input =
          app.load.happenings host.files input.load (input.load.inUse app.path)
            ++ [.shown store] := by
  have hleft := h.stage.frame host.files input.load app.path
  cases hadvances : (app.load.frame host.files input.load app.path).advances with
  | false =>
    rw [screen_frame_of_not_advances hscreen hadvances] at hnext
    cases hnext
  | true =>
    have hcan := hadvances
    rw [LoadScreen.advances_frame, Bool.and_eq_true] at hcan
    obtain ⟨files, path, settings, outcome, since, later, hread, hpath, haccepted, hkept⟩ :=
      hleft.of_canAdvance hcan.2
    refine ⟨files, path, settings, outcome, since, later, hread, ?_⟩
    have hframe := frame_of_advances hscreen hadvances
    rcases hkept with ⟨hpage, hsettings, -⟩ | ⟨hpage, -⟩
    · rw [advance_of_page hpage hsettings] at hframe
      rw [happenings_load hscreen, hframe]
      exact ⟨hpath, haccepted, rfl, rfl⟩
    · -- Without a page the application would have stayed.
      rw [advance_of_noPage hpage] at hframe
      rw [hframe, hscreen] at hnext
      cases hnext

/-- The board is there where it is to be shown, and the settings where the page is. Whenever the
    application goes on to a board, the feed that was asked for last was read to its end without an
    error from the path in use, and its warnings, if any, were accepted after that. The board is a
    new one for the page of that feed and for the settings that stood beside it. -/
theorem run_goesOn (inputs : List (Host × Input)) (host : Host) (input : Input) :
    let app := ({} : App).run inputs
    let next := (app.frame host input).1
    (app.screen = .board → app.board.isSome = true) ∧
      (app.load.page.isSome = true → app.load.settings.isSome = true) ∧
      (app.screen = .load → next.screen = .board →
        ∃ before files path settings outcome since later,
          let store := Store.new outcome.page settings
          ({} : App).history (inputs ++ [(host, input)]) = before ++ [.shown store] ∧
            ReadLast before files path settings outcome since later ∧
            pathInUse next.path = some path ∧
            (outcome.warnings = [] ∨ .accepted ∈ later) ∧
            next.board = some { store := store }) := by
  intro app next
  have hfollows : Follows (({} : App).history inputs) app := follows_run inputs
  refine ⟨hfollows.board, ?_, ?_⟩
  · intro hpage
    obtain ⟨page, hpage⟩ := Option.isSome_iff_exists.1 hpage
    obtain ⟨settings, hsettings⟩ := hfollows.stage.exists_settings hpage
    rw [hsettings]
    rfl
  · intro hscreen hnext
    obtain ⟨files, path, settings, outcome, since, later, hread, hpath, haccepted, hboard,
      hframe⟩ := hfollows.goesOn hscreen hnext
    refine ⟨_, files, path, settings, outcome, since, later, ?_, hread, hpath, haccepted, hboard⟩
    rw [history_concat, hframe, List.append_assoc]

/-- A machine with a feed that brings an element twice. -/
def twiceElement : Host where
  files :=
    { nodes := [(["feed"],
        .file ("[\"page\",[\"Open\"]]\n[\"element\",[\"e\"]]\n".toUTF8.data.toList
          ++ "[\"element\",[\"e\"]]\n".toUTF8.data.toList))] }
  year := 2025

/-- The feed is chosen and asked for, and its warning is accepted when it was read. -/
def readTwiceElement : List (Host × Input) :=
  [(twiceElement, { load := { chosen := some "/feed", parse := true } }),
    (twiceElement, { load := { arrivals := 9, accept := true } })]

def goOnClick : Input :=
  { load := { advance := true } }

/-- Once the warning is accepted, the application goes on to the page. -/
theorem run_goesOn_twiceElement :
    let app := ({} : App).run readTwiceElement
    let next := (app.frame twiceElement goOnClick).1
    app.screen = .load ∧ next.screen = .board ∧
      ∃ before files path settings outcome since later,
        let store := Store.new outcome.page settings
        ({} : App).history (readTwiceElement ++ [(twiceElement, goOnClick)]) =
            before ++ [.shown store] ∧
          ReadLast before files path settings outcome since later ∧
          pathInUse next.path = some path ∧
          (outcome.warnings = [] ∨ .accepted ∈ later) ∧
          next.board = some { store := store } := by
  have hscreen : (({} : App).run readTwiceElement).screen = .load := by decide +kernel
  have hnext : ((({} : App).run readTwiceElement).frame twiceElement goOnClick).1.screen =
      .board := by
    decide +kernel
  exact ⟨hscreen, hnext, (run_goesOn readTwiceElement twiceElement goOnClick).2.2 hscreen hnext⟩

/-- A click on the button that goes on leads to a board, if the application did not go on to one
    since a feed was asked for last. Otherwise the page was used up and nothing happens, though the
    button can be used. -/
theorem run_goesOn_once (inputs : List (Host × Input)) (host : Host) (input : Input)
    (hscreen : (({} : App).run inputs).screen = .load)
    (hbutton : Widget.button "Continue" .advance ∈ ((({} : App).run inputs).frame host input).2)
    (hclicked : input.load.advance = true) :
    let next := ((({} : App).run inputs).frame host input).1
    ∃ files path since, AskedLast (({} : App).history inputs) files path since ∧
      ((∀ happening ∈ since, happening.isShown = false) →
        next.screen = .board ∧ next.board.isSome = true) ∧
      ((∃ happening ∈ since, happening.isShown = true) → next.screen = .load) := by
  have hfollows := follows_run inputs
  generalize ({} : App).run inputs = app at *
  intro next
  have hleft := hfollows.stage.frame host.files input.load app.path
  have hcan : (app.load.frame host.files input.load app.path).screen.canAdvance
      (input.load.inUse app.path) = true := by
    rw [frame_load hscreen] at hbutton
    exact (LoadView.continue_mem_widgets_iff _).1 hbutton
  have hadvances : (app.load.frame host.files input.load app.path).advances = true := by
    rw [LoadScreen.advances_frame, hclicked, hcan]
    rfl
  have hnext := frame_of_advances hscreen hadvances
  obtain ⟨files, path, settings, outcome, since, later, hread, -, -, hkept⟩ :=
    hleft.of_canAdvance hcan
  have hquiet := LoadScreen.quiet_of_canAdvance hcan
  obtain ⟨since', hasked, rfl⟩ :=
    hread.asked.of_append fun happening hmem => (hquiet happening hmem).1
  refine ⟨files, path, since', hasked, ?_, ?_⟩
  · intro hnone
    rcases hkept with ⟨hpage, hsettings, -⟩ | ⟨-, happening, hmem, hshown⟩
    · rw [advance_of_page hpage hsettings] at hnext
      exact ⟨congrArg App.screen hnext, congrArg (fun app => app.board.isSome) hnext⟩
    · -- The page could only have been used up before this frame.
      have hnotShown : happening.isShown = false :=
        (List.mem_append.1 hmem).elim (hnone happening) fun hframe => (hquiet happening hframe).2
      rw [hnotShown] at hshown
      cases hshown
  · rintro ⟨happening, hmem, hshown⟩
    rcases hkept with ⟨-, -, hnone⟩ | ⟨hpage, -⟩
    · rw [hnone happening (List.mem_append_left _ hmem)] at hshown
      cases hshown
    · rw [advance_of_noPage hpage] at hnext
      exact (congrArg App.screen hnext).trans hscreen

/-- At the first click the page is shown. -/
theorem run_goesOn_once_twiceElement :
    let app := ({} : App).run readTwiceElement
    let next := (app.frame twiceElement goOnClick).1
    app.screen = .load ∧
      Widget.button "Continue" .advance ∈ (app.frame twiceElement goOnClick).2 ∧
      goOnClick.load.advance = true ∧
      ∃ files path since, AskedLast (({} : App).history readTwiceElement) files path since ∧
        ((∀ happening ∈ since, happening.isShown = false) →
          next.screen = .board ∧ next.board.isSome = true) ∧
        ((∃ happening ∈ since, happening.isShown = true) → next.screen = .load) := by
  have hscreen : (({} : App).run readTwiceElement).screen = .load := by decide +kernel
  have hbutton : Widget.button "Continue" .advance ∈
      ((({} : App).run readTwiceElement).frame twiceElement goOnClick).2 := by
    decide +kernel
  exact ⟨hscreen, hbutton, rfl,
    run_goesOn_once readTwiceElement twiceElement goOnClick hscreen hbutton rfl⟩

/-- The application goes on to the page and back again. The button can still be used then, but a
    click on it does nothing. -/
theorem run_stays_twiceElement :
    let app := ({} : App).run
      (readTwiceElement ++ [(twiceElement, goOnClick), (twiceElement, { clicked := [1] })])
    app.screen = .load ∧
      Widget.button "Continue" .advance ∈ (app.frame twiceElement goOnClick).2 ∧
      goOnClick.load.advance = true ∧
      (app.frame twiceElement goOnClick).1.screen = .load := by
  decide +kernel

end App

end Scoreboard
