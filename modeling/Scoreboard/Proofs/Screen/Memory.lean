import Scoreboard.Proofs.Feed.Distinct
import Scoreboard.Proofs.Feed.Lines
import Scoreboard.Proofs.Screen.Offers
import Scoreboard.Proofs.Screen.Stage

/-!
# What the screen remembers of the board

What is to be drawn, and what is to be told of the last click, can be kept apart from the store.
Then it stays when the board is left, and has to be dropped before another board is shown. The
application does the same in both forms, and what it remembers always fits the store.

## Main definitions

- `Memory` — what the screen remembers of the board
- `SplitApp` — the application with the memory kept apart
- `SplitApp.joined` — the application in one piece

## Main statements

- `SplitApp.joined_frame` — a frame does the same in both forms
- `SplitApp.run_remembers` — what is remembered fits the store, and no click was refused

## Design notes

In one piece a board that is left is gone with all that was drawn of it, so nothing old could ever
be drawn. Kept apart, the memory outlives the store, and clicks in the frame in which the board is
left still change it.
-/

namespace Scoreboard

/-- What the screen remembers of the board from frame to frame. -/
structure Memory where
  /-- What was last told to draw. -/
  drawn : Option Render := none
  lastSort : Option SortReport := none
  /-- Why the last click was refused, if it was. -/
  lastError : Option GridError := none

/-- A store on the screen, with what is remembered. -/
def Memory.board (memory : Memory) (store : Store) : Board where
  store := store
  drawn := memory.drawn
  lastSort := memory.lastSort
  lastError := memory.lastError

/-- What is to be remembered of a board. -/
def Board.memory (board : Board) : Memory where
  drawn := board.drawn
  lastSort := board.lastSort
  lastError := board.lastError

/-- The application with the memory of the board kept apart from its store. -/
structure SplitApp where
  path : Option String := none
  load : LoadScreen := {}
  screen : Screen := .load
  /-- The store of the board, if a page was gone on to. -/
  store : Option Store := none
  memory : Memory := {}

namespace SplitApp

/-- The application in one piece. -/
def joined (app : SplitApp) : App where
  path := app.path
  load := app.load
  screen := app.screen
  board := app.store.map app.memory.board

/-- The application goes on to the page that was read, and forgets about the board before. -/
def advance (app : SplitApp) : SplitApp :=
  match app.load.page, app.load.settings with
  | some page, some settings =>
    { app with
      load := { app.load with page := none, settings := none }
      screen := .board
      store := some (Store.new page settings)
      memory := {} }
  | _, _ => { app with load := { app.load with page := none } }

/-- The application after a frame. When the board is left its store is given up, but not what is
    remembered. -/
def frame (host : Host) (input : Input) (app : SplitApp) : SplitApp :=
  match app.screen with
  | .load =>
    let frame := app.load.frame host.files input.load app.path
    let next := { app with path := frame.path, load := frame.screen }
    if frame.advances then next.advance else next
  | .board =>
    match app.store with
    | some store =>
      let board := app.memory.board store
      let actions := board.actions input.clicked
      let next :=
        (Board.eventsOf actions).foldl (Board.take host.year)
          { board with drawn := some board.render }
      if .loadAnother ∈ actions then
        { app with screen := .load, store := none, memory := next.memory }
      else
        { app with store := some next.store, memory := next.memory }
    | none => app

/-- The application after a series of frames. -/
def run (app : SplitApp) (inputs : List (Host × Input)) : SplitApp :=
  inputs.foldl (fun app input => app.frame input.1 input.2) app

theorem joined_advance (app : SplitApp) : app.advance.joined = app.joined.advance := by
  simp only [advance, App.advance, joined]
  cases app.load.page with
  | none => rfl
  | some page => cases app.load.settings <;> rfl

/-- A frame does the same, whether the memory is kept apart or not. -/
theorem joined_frame (host : Host) (input : Input) (app : SplitApp) :
    (app.frame host input).joined = (app.joined.frame host input).1 := by
  obtain ⟨path, load, screen, store, memory⟩ := app
  cases screen with
  | load =>
    rw [App.frame_load rfl]
    simp only [frame]
    rw [apply_ite joined, joined_advance]
    rfl
  | board =>
    cases store with
    | none => rfl
    | some store =>
      simp only [frame, App.frame, Board.frame, joined, Option.map_some]
      by_cases hleft : .loadAnother ∈ (memory.board store).actions input.clicked
      · rw [if_pos hleft, if_pos hleft]
        rfl
      · rw [if_neg hleft, if_neg hleft]
        rfl

theorem joined_run (inputs : List (Host × Input)) (app : SplitApp) :
    (app.run inputs).joined = app.joined.run inputs := by
  induction inputs generalizing app with
  | nil => rfl
  | cons input rest ih =>
    refine (ih (app.frame input.1 input.2)).trans ?_
    rw [joined_frame]
    rfl

/-- No click was refused, and the board, if there is one, shows what became of the page of a
    feed. -/
structure Intact (app : SplitApp) : Prop where
  lastError : app.memory.lastError = none
  shows : ∀ store, app.store = some store →
    ∃ page settings, (page.tables.map Table.id).Nodup ∧
      Board.Shows page settings (app.memory.board store)

variable {app : SplitApp} {history : List Happening}

theorem Intact.advance (h : app.Intact) (hstage : app.load.Stage history) :
    app.advance.Intact := by
  simp only [SplitApp.advance]
  split
  · next page settings hpage hsettings =>
    obtain ⟨every, lines, outcome, hread, rfl⟩ := hstage.exists_read hpage
    refine ⟨rfl, fun store hstore => ?_⟩
    cases hstore
    exact ⟨outcome.page, settings, (Feed.tables_of_read hread).1, Board.shows_new _ _⟩
  · exact ⟨h.lastError, h.shows⟩

theorem Intact.frame (h : app.Intact) (hstage : app.load.Stage history) (host : Host)
    (input : Input) : (app.frame host input).Intact := by
  simp only [SplitApp.frame]
  split
  · -- The board before, if any, is still remembered on the load screen.
    have hnext := hstage.frame host.files input.load app.path
    generalize app.load.frame host.files input.load app.path = frame at hnext ⊢
    have hstay : { app with path := frame.path, load := frame.screen }.Intact :=
      ⟨h.lastError, h.shows⟩
    split
    · exact hstay.advance hnext
    · exact hstay
  · split
    · next store hstore =>
      obtain ⟨page, settings, hnodup, hshows⟩ := h.shows store hstore
      have haccepted := hshows.refusal?_of_clicked hnodup input.clicked
      have herror := hshows.drawn.lastError_foldl_take h.lastError host.year haccepted
      split
      · exact ⟨herror, fun _ hnone => nomatch hnone⟩
      · refine ⟨herror, fun next hnext => ?_⟩
        cases hnext
        exact ⟨page, settings, hnodup, hshows.drawn.foldl_take host.year _⟩
    · exact h

theorem intact_run (inputs : List (Host × Input)) : (({} : SplitApp).run inputs).Intact := by
  induction inputs using List.reverseRecOn with
  | nil => exact ⟨rfl, fun _ hnone => nomatch hnone⟩
  | append_singleton inputs input ih =>
    have hstage := (App.follows_run inputs).stage
    rw [← show (({} : SplitApp).run inputs).joined = ({} : App).run inputs from
      joined_run inputs {}] at hstage
    rw [run, List.foldl_append]
    exact ih.frame hstage input.1 input.2

/-- In every run, whatever feeds are read and whatever is clicked, the application that keeps the
    memory of the board apart does what the application does. No click was ever refused. While the
    board is shown there is a store, and every event that can be asked for in a frame is accepted
    when its turn comes. If there is something remembered to draw, it is what there is to draw of
    that store, but for the report of a sort, also if another board was shown before. -/
theorem run_remembers (inputs : List (Host × Input)) :
    let app := ({} : SplitApp).run inputs
    app.joined = ({} : App).run inputs ∧ app.memory.lastError = none ∧
      (app.screen = .board → ∃ store, app.store = some store ∧
        (∀ clicked earlier event later,
          Board.eventsOf ((app.memory.board store).actions clicked) =
              earlier.map Prod.snd ++ event :: later →
            ∀ clock, ∃ answer, (store.run earlier).handle clock event = .ok answer) ∧
        ∀ render, app.memory.drawn = some render →
          ∃ sort, render = { store.render with sort }) := by
  intro app
  have hjoined : app.joined = ({} : App).run inputs := joined_run inputs {}
  have hintact : app.Intact := intact_run inputs
  refine ⟨hjoined, hintact.lastError, fun hscreen => ?_⟩
  have hboard := (App.follows_run inputs).board
  rw [← hjoined] at hboard
  obtain ⟨store, hstore⟩ : ∃ store, app.store = some store := by
    have hsome := hboard hscreen
    simp only [joined, Option.isSome_map] at hsome
    exact Option.isSome_iff_exists.1 hsome
  obtain ⟨page, settings, hnodup, hshows⟩ := hintact.shows store hstore
  refine ⟨store, hstore, fun clicked earlier event later hevents clock => ?_,
    fun render hrender => hshows.eq_render hrender⟩
  have hmem : event ∈ Board.eventsOf ((app.memory.board store).actions clicked) := by
    rw [hevents]
    exact List.mem_append_right _ List.mem_cons_self
  exact hshows.exists_answer (hshows.refusal?_of_clicked hnodup clicked event hmem) earlier clock

/-- A feed with one player. -/
def oneCard : List String :=
  ["[\"page\",[\"Open\"]]",
    "[\"table\",\x7b\"id\":\"t\",\"columns\":[[\"R1\",1]],\"groups\":[[1,\"One\"]]\x7d]",
    "[\"row\",\x7b\"table_id\":\"t\",\"id\":\"a\",\"player\":\"ann\","
      ++ "\"cells\":[\"Ann\",\"3\"]\x7d]"]

/-- A machine with that feed and another one. -/
def twoFeeds : Host where
  files :=
    { nodes := [(["feed"], .file (Feed.bytesOf (Feed.textOf oneCard))),
        (["other"], .file (Feed.bytesOf (Feed.textOf ["[\"page\",[\"Cup\"]]"])))] }
  year := 2025

/-- A feed is chosen, read and gone on to. -/
def showFeed (path : String) : List Input :=
  [{ load := { chosen := some path, parse := true } }, { load := { arrivals := 99 } },
    { load := { advance := true } }]

/-- Clicks on some widgets of a board. -/
def click (clicked : List Nat) : Input where
  clicked := clicked

/-- On the board of the first feed three widgets are clicked in one frame. Then it is left for the
    other feed, with one more click in the same frame. -/
def showTwoFeeds : List (Host × Input) :=
  (showFeed "/feed" ++ [click [4, 9, 11], click [1, 6]] ++ showFeed "/other" ++ [click [3]]).map
    fun input => (twoFeeds, input)

/-- What is remembered in the end fits the second feed. -/
theorem run_remembers_twoFeeds :
    let app := ({} : SplitApp).run showTwoFeeds
    app.screen = .board ∧ app.memory.drawn.isSome = true ∧ app.memory.lastError = none ∧
      ∃ store, app.store = some store ∧ store.page.title = "Cup" ∧
        (∀ clicked earlier event later,
          Board.eventsOf ((app.memory.board store).actions clicked) =
              earlier.map Prod.snd ++ event :: later →
            ∀ clock, ∃ answer, (store.run earlier).handle clock event = .ok answer) ∧
        ∀ render, app.memory.drawn = some render →
          ∃ sort, render = { store.render with sort } := by
  have hend : (({} : SplitApp).run showTwoFeeds).screen = .board ∧
      (({} : SplitApp).run showTwoFeeds).memory.drawn.isSome = true ∧
      ((({} : SplitApp).run showTwoFeeds).store.map fun store => store.page.title) =
        some "Cup" := by
    decide +kernel
  obtain ⟨hscreen, hdrawn, htitle⟩ := hend
  obtain ⟨-, herror, hboard⟩ := run_remembers showTwoFeeds
  obtain ⟨store, hstore, hkept⟩ := hboard hscreen
  rw [hstore, Option.map_some, Option.some_inj] at htitle
  exact ⟨hscreen, hdrawn, herror, store, hstore, htitle, hkept⟩

end SplitApp

end Scoreboard
