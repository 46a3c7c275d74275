import Mathlib.Logic.Function.Iterate
import Scoreboard.Proofs.Grid.Run

/-!
# Rounds after a series of events

A toggle turns a round and its label. The label is turned by what it says, so at first it need not
go with the state of the round: a page may give its header any label. From the first toggle on it is
one of the two labels in use, turn about.

## Main definitions

- `CollapseStyle.labelAfter` — the label of a round after a number of toggles
- `Page.header?` — the first header of a round

## Main statements

- `Fold.iterate_toggle` — the state of a round after a number of toggles
- `Store.run_fold` — a series of events toggles a round as often as it has toggles that are accepted
- `Store.run_isCollapsed` — a round is collapsed after an odd number of toggles
- `Store.run_groups` — how the headers of all rounds are drawn after any series of events
-/

namespace Scoreboard

/-- The label of a round after some toggles, if it was `label` at first: either of the two labels in
    use, turn about. The first toggle brings the one that offers to shrink just if `label` is the
    one that offers to expand. -/
def CollapseStyle.labelAfter (style : CollapseStyle) (label : String) (toggles : Nat) : String :=
  if toggles = 0 then label
  else if label = style.expandLabel ↔ toggles % 2 = 1 then style.shrinkLabel
  else style.expandLabel

/-- The first header of a round, in page order. -/
def Page.header? (page : Page) (round : RoundId) : Option GroupHeader :=
  page.groupHeaders.find? fun header => header.round = round

theorem Page.exists_header?_iff {page : Page} {round : RoundId} :
    (∃ header, page.header? round = some header) ↔
      ∃ table ∈ page.tables, ∃ header ∈ table.groups, header.round = round := by
  rw [← Option.isSome_iff_exists, header?, List.find?_isSome]
  unfold groupHeaders
  simp only [List.mem_flatMap, decide_eq_true_eq]
  constructor
  · rintro ⟨header, ⟨table, htable, hheader⟩, hround⟩
    exact ⟨table, htable, header, hheader, hround⟩
  · rintro ⟨table, htable, header, hheader, hround⟩
    exact ⟨header, ⟨table, htable, hheader⟩, hround⟩

theorem CollapseStyle.labelAfter_succ (style : CollapseStyle) (label : String) (toggles : Nat) :
    style.labelAfter label (toggles + 1) =
      if style.labelAfter label toggles = style.expandLabel then style.shrinkLabel
      else style.expandLabel := by
  unfold labelAfter
  rw [if_neg (Nat.succ_ne_zero toggles)]
  by_cases hzero : toggles = 0
  · subst hzero
    simp
  · have hparity : (label = style.expandLabel ↔ (toggles + 1) % 2 = 1) ↔
        ¬ (label = style.expandLabel ↔ toggles % 2 = 1) := by
      have hnext : (toggles + 1) % 2 = 1 ↔ ¬ toggles % 2 = 1 := by omega
      rw [hnext]
      tauto
    rw [if_neg hzero]
    by_cases hturn : label = style.expandLabel ↔ toggles % 2 = 1
    · rw [if_pos hturn, if_neg (fun h => hparity.1 h hturn)]
      -- The two labels in use may be the same.
      split
      · next hsame => exact hsame.symm
      · rfl
    · rw [if_neg hturn, if_pos (hparity.2 hturn), if_pos rfl]

theorem Fold.iterate_toggle (style : CollapseStyle) (fold : Fold) (toggles : Nat) :
    (Fold.toggle style)^[toggles] fold =
      ⟨fold.collapsed ^^ decide (toggles % 2 = 1), style.labelAfter fold.label toggles⟩ := by
  induction toggles with
  | zero => simp [CollapseStyle.labelAfter]
  | succ toggles ih =>
    have hparity : decide ((toggles + 1) % 2 = 1) = !decide (toggles % 2 = 1) := by
      rw [← decide_not, decide_eq_decide]
      omega
    rw [Function.iterate_succ_apply', ih, toggle, hparity, style.labelAfter_succ, Bool.xor_not]

namespace Collapse

theorem get?_ofPage (page : Page) (style : CollapseStyle) (round : RoundId) :
    (ofPage page style).folds.get? round = (page.header? round).map (GroupHeader.fold style) := by
  unfold ofPage Page.header?
  induction page.groupHeaders with
  | nil => rfl
  | cons header headers ih =>
    rw [List.foldr_cons, SortedMap.get?_insert, List.find?_cons]
    by_cases hround : header.round = round
    · simp [hround]
    · rw [if_neg (Ne.symm hround), ih, decide_eq_false hround]

/-- At first no round is collapsed. -/
theorem isCollapsed_ofPage (page : Page) (style : CollapseStyle) (round : RoundId) :
    (ofPage page style).isCollapsed round = false := by
  unfold isCollapsed
  rw [get?_ofPage]
  cases page.header? round <;> rfl

/-- A click on the header of a round turns that round, and no other. -/
theorem isCollapsed_insert_toggle (collapse : Collapse) {round : RoundId} {fold : Fold}
    (hfold : collapse.folds.get? round = some fold) (other : RoundId) :
    Collapse.isCollapsed
        { collapse with folds := collapse.folds.insert round (fold.toggle collapse.style) } other =
      (collapse.isCollapsed other ^^ decide (other = round)) := by
  unfold isCollapsed
  rw [SortedMap.get?_insert]
  by_cases h : other = round
  · subst h
    simp [hfold, Fold.toggle]
  · simp [h]

theorem mem_views_iff {collapse : Collapse} {group : GroupView} :
    group ∈ collapse.views ↔ ∃ round fold, collapse.folds.get? round = some fold ∧
      fold.view collapse.style round = group := by
  unfold views
  rw [List.mem_map]
  constructor
  · rintro ⟨⟨round, fold⟩, hmem, rfl⟩
    exact ⟨round, fold, SortedMap.get?_eq_some_iff.2 hmem, rfl⟩
  · rintro ⟨round, fold, hfold, rfl⟩
    exact ⟨(round, fold), SortedMap.get?_eq_some_iff.1 hfold, rfl⟩

/-- The headers are drawn in ascending order of their rounds. -/
theorem pairwise_views (collapse : Collapse) :
    (collapse.views.map fun group => group.round.number).Pairwise (· < ·) := by
  unfold views
  rw [List.map_map, List.pairwise_map]
  exact collapse.folds.ascending.imp fun h => (Std.compare_eq_lt (α := UInt32)).1 h

end Collapse

namespace Store

variable (store : Store) (clock : Int) (event : Event) (events : List (Int × Event))
  (round : RoundId)

theorem Accepts.style_eq {store store' : Store} {clock : Int} {event : Event}
    (h : store.Accepts clock event store') :
    store'.collapse.style = store.collapse.style := by
  cases h <;> rfl

theorem step_style : (store.step clock event).collapse.style = store.collapse.style :=
  step_invariant (fun store' => store'.collapse.style = store.collapse.style)
    (fun _ haccepts => haccepts.style_eq) rfl

theorem run_style : (store.run events).collapse.style = store.collapse.style :=
  run_invariant (fun store' => store'.collapse.style = store.collapse.style)
    (fun haccepts h => haccepts.style_eq.trans h) rfl events

/-- A toggle turns the state of its round, if it has one, and no other event touches the rounds. -/
theorem step_fold :
    (store.step clock event).collapse.folds.get? round =
      if event = .roundToggle round then
        (store.collapse.folds.get? round).map (Fold.toggle store.collapse.style)
      else store.collapse.folds.get? round := by
  rcases step_cases store clock event with ⟨haccepts, -⟩ | ⟨hsame, hrefused⟩
  · generalize store.step clock event = store' at haccepts
    cases haccepts with
    | roundToggle toggled fold hfold =>
      show (store.collapse.folds.insert toggled _).get? round = _
      rw [SortedMap.get?_insert]
      by_cases hround : round = toggled
      · subst hround
        simp [hfold]
      · simp [hround, Ne.symm hround]
    | _ => rfl
  · rw [hsame]
    split
    · next heq =>
      -- A toggle is refused only where there is no state to turn.
      subst heq
      rw [apply_roundToggle] at hrefused
      cases hfold : store.collapse.folds.get? round with
      | none => rfl
      | some fold => rw [hfold] at hrefused; cases hrefused
    · rfl

theorem toggles_cons : store.toggles ((clock, event) :: events) round =
    (store.step clock event).toggles events round +
      if event = .roundToggle round ∧ (store.apply clock event).isOk = true then 1 else 0 := by
  unfold toggles
  rw [accepted]
  by_cases hok : (store.apply clock event).isOk = true
  · rw [if_pos hok, List.count_cons]
    simp only [hok, and_true, beq_iff_eq]
  · rw [if_neg hok, if_neg fun h => hok h.2]
    rfl

/-- A series of events toggles a round as often as it has toggles of it that are accepted. -/
theorem run_fold :
    (store.run events).collapse.folds.get? round =
      (store.collapse.folds.get? round).map
        (Fold.toggle store.collapse.style)^[store.toggles events round] := by
  induction events generalizing store with
  | nil => exact (Option.map_id_apply).symm
  | cons entry events ih =>
    obtain ⟨clock, event⟩ := entry
    show ((store.step clock event).run events).collapse.folds.get? round = _
    rw [ih, step_style, step_fold, toggles_cons]
    by_cases htoggle : event = .roundToggle round
    · subst htoggle
      rw [if_pos rfl, apply_roundToggle]
      cases store.collapse.folds.get? round with
      | none => rfl
      | some fold =>
        rw [if_pos ⟨rfl, rfl⟩, Option.map_map, ← Function.iterate_succ]
    · rw [if_neg htoggle, if_neg fun h => htoggle h.1, Nat.add_zero]

theorem toggles_of_none (h : store.collapse.folds.get? round = none) :
    store.toggles events round = 0 := by
  induction events generalizing store with
  | nil => rfl
  | cons entry events ih =>
    obtain ⟨clock, event⟩ := entry
    have hstep : (store.step clock event).collapse.folds.get? round = none := by
      rw [step_fold, h, Option.map_none, ite_self]
    rw [toggles_cons, ih _ hstep, if_neg]
    rintro ⟨rfl, hok⟩
    rw [apply_roundToggle, h] at hok
    cases hok

/-- A round is turned by every toggle that is not refused. -/
theorem run_isCollapsed :
    (store.run events).collapse.isCollapsed round =
      (store.collapse.isCollapsed round ^^ decide (store.toggles events round % 2 = 1)) := by
  unfold Collapse.isCollapsed
  rw [run_fold]
  cases hfold : store.collapse.folds.get? round with
  | none => rw [toggles_of_none _ _ _ hfold]; rfl
  | some fold => rw [Option.map_some, Fold.iterate_toggle]; rfl

/-- The headers of a page are drawn in ascending order of their rounds, one for each round that has
    a header in some table. A round is collapsed after an odd number of toggles, and its width and
    its other headers go with that. Its label is turned as often, from the one that the first header
    of the round has. -/
theorem run_groups (page : Page) (settings : Settings) (events : List (Int × Event)) :
    let start := new page settings
    let groups := (start.run events).render.groups
    let style := settings.collapse
    (groups.map fun group => group.round.number).Pairwise (· < ·) ∧
      (∀ round, (∃ group ∈ groups, group.round = round) ↔
        ∃ table ∈ page.tables, ∃ header ∈ table.groups, header.round = round) ∧
      ∀ group ∈ groups, ∃ header, page.header? group.round = some header ∧
        let toggles := start.toggles events group.round
        group.collapsed = decide (toggles % 2 = 1) ∧
          group.span = (if toggles % 2 = 1 then style.collapsedSpan else style.expandedSpan) ∧
          group.secondaryShown = !group.collapsed ∧
          group.label = style.labelAfter (header.label.getD style.expandLabel) toggles := by
  intro start groups style
  have hfold (round : RoundId) : (start.run events).collapse.folds.get? round =
      (page.header? round).map fun header =>
        (Fold.toggle style)^[start.toggles events round] (header.fold style) := by
    rw [run_fold]
    show ((Collapse.ofPage page style).folds.get? round).map _ = _
    rw [Collapse.get?_ofPage, Option.map_map]
    rfl
  refine ⟨Collapse.pairwise_views _, fun round => ?_, fun group hgroup => ?_⟩
  · rw [← Page.exists_header?_iff]
    constructor
    · rintro ⟨group, hgroup, rfl⟩
      obtain ⟨round, fold, hget, rfl⟩ := Collapse.mem_views_iff.1 hgroup
      rw [hfold, Option.map_eq_some_iff] at hget
      obtain ⟨header, hheader, -⟩ := hget
      exact ⟨header, hheader⟩
    · rintro ⟨header, hheader⟩
      exact ⟨Fold.view _ round _,
        Collapse.mem_views_iff.2 ⟨round, _, (hfold round).trans (congrArg _ hheader), rfl⟩, rfl⟩
  · obtain ⟨round, fold, hget, rfl⟩ := Collapse.mem_views_iff.1 hgroup
    rw [hfold, Option.map_eq_some_iff] at hget
    obtain ⟨header, hheader, rfl⟩ := hget
    refine ⟨header, hheader, ?_⟩
    rw [run_style start events, Fold.iterate_toggle]
    refine ⟨Bool.false_xor _, ?_, rfl, rfl⟩
    simp only [Fold.view, GroupHeader.fold, Bool.false_xor, decide_eq_true_eq]
    rfl

end Store

end Scoreboard
