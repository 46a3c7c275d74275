import Scoreboard.Proofs.Grid.Refusal
import Scoreboard.Proofs.Grid.Visibility
import Scoreboard.Screen.Board

/-!
# Runs of the board

Whatever is clicked, the store of the board is what became of its page, and what is drawn is what
there is to draw of the store.

## Main definitions

- `Board.run` — the board after a series of frames
- `Board.Shows` — the board shows what became of a page

## Main statements

- `Board.Shows.run` — whatever is clicked, the board shows what became of its page
- `Board.frame_of_click` — a click on one widget does what the widget asks for
-/

namespace Scoreboard

namespace Page

variable {page page' : Page}

theorem Rearranged.tableIds_eq (h : page.Rearranged page') :
    page'.tables.map Table.id = page.tables.map Table.id := by
  have htables := h.tables
  generalize page.tables = tables at htables ⊢
  generalize page'.tables = tables' at htables ⊢
  induction htables with
  | nil => rfl
  | cons hhead _ ih => rw [List.map_cons, List.map_cons, hhead.id_eq, ih]

theorem Rearranged.hasRound_of_mem (h : page.Rearranged page') {table' : Table}
    {group : GroupHeader} (htable' : table' ∈ page'.tables) (hgroup : group ∈ table'.groups) :
    page.hasRound group.round = true := by
  obtain ⟨table, htable, hsame⟩ := h.exists_table htable'
  rw [hsame.groups_eq] at hgroup
  rw [← Bool.not_eq_false, hasRound_eq_false_iff]
  exact fun hnone => hnone table htable group hgroup rfl

end Page

namespace Store

variable {page : Page} {store : Store}

/-- A click on the header of a round turns that round and leaves everything else as it is. -/
theorem step_roundToggle (h : Follows page store) (clock : Int) {round : RoundId}
    (hround : page.hasRound round = true) :
    (∃ collapse, store.step clock (.roundToggle round) = { store with collapse }) ∧
      ∀ other, (store.step clock (.roundToggle round)).collapse.isCollapsed other =
        (store.collapse.isCollapsed other ^^ decide (other = round)) := by
  rw [← h.rounds] at hround
  obtain ⟨fold, hfold⟩ := Option.isSome_iff_exists.1 hround
  have hstep : store.step clock (.roundToggle round) =
      { store with
        collapse :=
          { store.collapse with
            folds := store.collapse.folds.insert round (fold.toggle store.collapse.style) } } := by
    unfold step
    rw [apply_roundToggle, hfold]
  rw [hstep]
  exact ⟨⟨_, rfl⟩, store.collapse.isCollapsed_insert_toggle hfold⟩

end Store

namespace Board

/-- The board after a series of frames, each with what the clock says then; none once it was
    left. -/
def run (board : Board) : List (Int × List Nat) → Option Board
  | [] => some board
  | (clock, clicked) :: rest => (board.frame clock clicked).bind fun next => next.run rest

/-- The board shows what became of a page: its store is that of the page after some events, and what
    is drawn is what there is to draw of it. -/
structure Shows (page : Page) (settings : Settings) (board : Board) : Prop where
  store : ∃ events, board.store = (Store.new page settings).run events
  render : ∃ sort, board.render = { board.store.render with sort }

variable {page : Page} {settings : Settings} {board next : Board} {clock : Int}

theorem shows_new (page : Page) (settings : Settings) :
    Shows page settings { store := Store.new page settings } :=
  ⟨⟨[], rfl⟩, ⟨none, rfl⟩⟩

theorem Shows.follows (h : Shows page settings board) : Store.Follows page board.store := by
  obtain ⟨events, hevents⟩ := h.store
  rw [hevents]
  exact Store.follows_run page settings events

theorem store_take (clock : Int) (board : Board) (event : Event) :
    (board.take clock event).store = board.store.step clock event := by
  unfold take
  split
  · next hhandle => exact (Store.render_of_handle hhandle).1
  · next hrefused => exact (Store.step_of_error (Store.handle_eq_error_iff.1 hrefused)).symm

theorem Shows.take (h : Shows page settings board) (clock : Int) (event : Event) :
    Shows page settings (board.take clock event) where
  store := by
    obtain ⟨events, hevents⟩ := h.store
    refine ⟨events ++ [(clock, event)], ?_⟩
    rw [store_take, hevents, Store.run_append]
    rfl
  render := by
    unfold Board.take
    split
    · next hhandle => exact (Store.render_of_handle hhandle).2
    · exact h.render

theorem Shows.foldl_take (h : Shows page settings board) (clock : Int) (events : List Event) :
    Shows page settings (events.foldl (Board.take clock) board) := by
  induction events generalizing board with
  | nil => exact h
  | cons event rest ih => exact ih (h.take clock event)

theorem Shows.drawn (h : Shows page settings board) :
    Shows page settings { board with drawn := some board.render } :=
  ⟨h.store, h.render⟩

/-- What was last told to draw is what there is to draw. -/
theorem Shows.eq_render (h : Shows page settings board) {render : Render}
    (hdrawn : board.drawn = some render) : ∃ sort, render = { board.store.render with sort } := by
  obtain ⟨sort, hrender⟩ := h.render
  rw [Board.render, hdrawn] at hrender
  exact ⟨sort, hrender⟩

theorem Shows.frame (h : Shows page settings board) {clicked : List Nat}
    (hframe : board.frame clock clicked = some next) : Shows page settings next := by
  unfold Board.frame at hframe
  dsimp only at hframe
  split at hframe
  · cases hframe
  · cases hframe
    exact h.drawn.foldl_take clock _

/-- Whatever is clicked, the board shows what became of its page. -/
theorem Shows.run (h : Shows page settings board) {frames : List (Int × List Nat)}
    (hrun : board.run frames = some next) : Shows page settings next := by
  induction frames generalizing board with
  | nil =>
    cases hrun
    exact h
  | cons entry rest ih =>
    obtain ⟨clock, clicked⟩ := entry
    obtain ⟨middle, hframe, hrest⟩ := Option.bind_eq_some_iff.1 hrun
    exact ih (h.frame hframe) hrest

theorem actions_singleton (board : Board) (position : Nat) :
    board.actions [position] = ((board.widgets[position]?).bind Widget.action).toList := by
  unfold actions
  rw [List.filter_zipIdx_singleton]
  cases board.widgets[position]? with
  | none => rfl
  | some widget =>
    cases haction : widget.action with
    | none => simp [haction]
    | some action => simp [haction]

/-- A click on one widget does what the widget asks for. -/
theorem frame_of_click {position : Nat} {event : Event}
    (hclicked : (board.widgets[position]?).bind Widget.action = some (.event event)) :
    board.frame clock [position] =
      some (({ board with drawn := some board.render } : Board).take clock event) := by
  unfold frame
  rw [actions_singleton, hclicked]
  rfl

end Board

end Scoreboard
