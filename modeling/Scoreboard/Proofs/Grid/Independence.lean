import Scoreboard.Proofs.Grid.Repeat
import Scoreboard.Proofs.Grid.Rows

/-!
# Events in either order

Two events that do not touch the same part of a store can be exchanged. Only three kinds of pairs do
touch the same part in ways that matter: two choices of a participant, two choices of a round, and
clicks on headers of one table.

## Main definitions

- `Event.Independent` — two events are of none of these kinds of pairs
- `Store.answer` — what comes of an event
- `Store.Agrees` — two stores show a table alike

## Main statements

- `Store.Agrees.step` — an event that does not sort a table leaves it as it is shown
- `Store.step_comm` — independent events can come in either order
-/

namespace Scoreboard

/-- Two events are not both choices of a participant, not both choices of a round, and not clicks on
    headers of tables of one name. -/
structure Event.Independent (first second : Event) : Prop where
  participant : first.participantChoice? = none ∨ second.participantChoice? = none
  round : first.roundChoice? = none ∨ second.roundChoice? = none
  sorted : ∀ tableId, first.sorted? = some tableId → second.sorted? ≠ some tableId

theorem Event.Independent.symm {first second : Event} (h : first.Independent second) :
    second.Independent first where
  participant := h.participant.symm
  round := h.round.symm
  sorted tableId hsecond hfirst := h.sorted tableId hfirst hsecond

theorem getD_getD_comm {α : Type} {a b : Option α} (h : a = none ∨ b = none) (x : α) :
    b.getD (a.getD x) = a.getD (b.getD x) := by
  rcases h with rfl | rfl <;> simp

theorem Store.replaceFirst_comm {α : Type} {test other : α → Bool} {a b : α}
    (hdisjoint : ∀ x, test x = true → other x = false) (ha : test a = true) (hb : other b = true)
    (xs : List α) : replaceFirst test a (replaceFirst other b xs) =
      replaceFirst other b (replaceFirst test a xs) := by
  have hother : other a = false := hdisjoint a ha
  have htest : test b = false := by
    by_contra h
    rw [hdisjoint b (by simpa using h)] at hb
    cases hb
  induction xs with
  | nil => rfl
  | cons x rest ih =>
    by_cases hx : test x = true
    · have hx' : other x = false := hdisjoint x hx
      simp [replaceFirst, hx, hx', hother]
    · by_cases hx' : other x = true
      · simp [replaceFirst, hx, hx', htest]
      · simp [replaceFirst, hx, hx', ih]

theorem SortedMap.insert_comm {κ α : Type} [Ord κ] [Std.TransOrd κ] [Std.LawfulEqOrd κ]
    [DecidableEq κ] (m : SortedMap κ α) {key key' : κ} (hne : key ≠ key') (a b : α) :
    (m.insert key a).insert key' b = (m.insert key' b).insert key a := by
  refine SortedMap.eq_of_get? fun other => ?_
  simp only [SortedMap.get?_insert]
  by_cases h : other = key
  · simp [h, hne]
  · simp [h]

theorem Page.withRows_comm {page : Page} {table table' : Table} (hne : table.id ≠ table'.id)
    (rows rows' : List Row) : (page.withRows table rows).withRows table' rows' =
      (page.withRows table' rows').withRows table rows := by
  unfold Page.withRows
  congr 1
  refine (Store.replaceFirst_comm ?_ (by simp) (by simp) page.tables).symm
  intro other hother
  exact decide_eq_false fun h => hne ((of_decide_eq_true hother).symm.trans h)

namespace Store

variable {store store' : Store} {clock clock' : Int} {event first second : Event}
  {tableId : String}

/-- What comes of an event: why it is refused, or else the report of a sort, if it is one. -/
def answer (store : Store) (clock : Int) (event : Event) :
    Except GridError (Option SortReport) :=
  (store.handle clock event).map fun result => result.2.sort

theorem answer_eq (store : Store) (clock : Int) (event : Event) :
    store.answer clock event = (store.apply clock event).map Prod.snd := by
  unfold answer handle
  cases store.apply clock event <;> rfl

/-- Two stores show a table alike, so a click on one of its headers comes to the same in both. -/
structure Agrees (tableId : String) (store store' : Store) : Prop where
  table?_eq : store'.page.table? tableId = store.page.table? tableId
  indicator_eq : store'.indicators.get? tableId = store.indicators.get? tableId
  comparison_eq : store'.comparison = store.comparison

namespace Agrees

theorem requested_eq {table : Table} (h : Agrees table.id store store') (column : Nat) :
    store'.requested table column = store.requested table column := by
  unfold requested Indicators.direction?
  rw [h.indicator_eq]

theorem sorted_eq {table : Table} (h : Agrees table.id store store') (clock : Int)
    (column : Nat) : store'.sorted clock table column = store.sorted clock table column := by
  unfold sorted
  rw [h.requested_eq, h.comparison_eq]

theorem answer_headerClick (h : Agrees tableId store store') (clock : Int) (column : UInt64) :
    store'.answer clock (.headerClick tableId column) =
      store.answer clock (.headerClick tableId column) := by
  rw [answer_eq, answer_eq, apply_headerClick, apply_headerClick, h.table?_eq]
  cases htable : store.page.table? tableId with
  | none => rfl
  | some table =>
    have hid := Page.id_of_table? htable
    subst hid
    have hreport : store'.clickReport clock table column.toNat =
        store.clickReport clock table column.toNat := by
      unfold clickReport
      rw [h.requested_eq, h.sorted_eq]
    dsimp only
    rw [hreport]
    split <;> rfl

/-- An event that does not sort a table leaves it as it is shown. -/
theorem step (store : Store) (clock : Int) (hother : event.sorted? ≠ some tableId) :
    Agrees tableId store (store.step clock event) := by
  refine step_invariant (Agrees tableId store) (fun store' haccepts => ?_) ⟨rfl, rfl, rfl⟩
  have hcomparison := haccepts.comparison_eq
  cases haccepts with
  | headerClick table column htable hcolumn =>
    have hne : table.id ≠ tableId := fun heq => hother (congrArg some heq)
    refine ⟨Page.table?_withRows_of_ne hne _, ?_, hcomparison⟩
    exact (SortedMap.get?_insert ..).trans (if_neg hne.symm)
  | _ => exact ⟨rfl, rfl, hcomparison⟩

end Agrees

/-- The page and the indicators, which are the work of clicks on headers alone. -/
def sheet (store : Store) : Page × Indicators :=
  (store.page, store.indicators)

/-- An event does the same to a sheet in every store that shows the table to be sorted alike: it
    puts the rows of that table in another order, or leaves the sheet as it is. -/
theorem step_sheet_cases (store : Store) (clock : Int) (event : Event) :
    (∃ table column, event.sorted? = some table.id ∧
        ∀ store', Agrees table.id store store' →
          (store'.step clock event).sheet = (store'.clicked clock table column).sheet) ∨
      ∀ store', (∀ tableId, event.sorted? = some tableId → Agrees tableId store store') →
        (store'.step clock event).sheet = store'.sheet := by
  cases event with
  | headerClick tableId column =>
    cases htable : store.page.table? tableId with
    | none =>
      refine .inr fun store' hagrees => ?_
      have happly := store'.apply_headerClick clock tableId column
      rw [(hagrees tableId rfl).table?_eq, htable] at happly
      rw [step_of_error happly]
    | some table =>
      have hid := Page.id_of_table? htable
      subst hid
      by_cases hcolumn : column.toNat < table.columns.length
      · refine .inl ⟨table, column.toNat, rfl, fun store' hagrees => ?_⟩
        unfold Store.step
        rw [apply_headerClick_of_table? (hagrees.table?_eq.trans htable) hcolumn]
      · refine .inr fun store' hagrees => ?_
        have happly := store'.apply_headerClick clock table.id column
        rw [(hagrees table.id rfl).table?_eq, htable] at happly
        rw [step_of_error (happly.trans (if_neg hcolumn))]
  | _ =>
    refine .inr fun store' _ => ?_
    exact Prod.ext (step_page rfl).1 (step_page rfl).2

theorem clicked_sheet_of_eq {table : Table} (hagrees : Agrees table.id store store')
    (hsheet : store'.sheet = store.sheet) (clock : Int) (column : Nat) :
    (store'.clicked clock table column).sheet = (store.clicked clock table column).sheet := by
  obtain ⟨hpage, hindicators⟩ := Prod.ext_iff.1 hsheet
  have hpage : store'.page = store.page := hpage
  have hindicators : store'.indicators = store.indicators := hindicators
  simp only [sheet, clicked, hpage, hindicators, hagrees.sorted_eq, hagrees.requested_eq]

theorem clicked_sheet_comm {table table' : Table} (hne : table.id ≠ table'.id)
    {storeT storeT' : Store} {column column' : Nat}
    (hagrees : Agrees table.id store storeT') (hagrees' : Agrees table'.id store storeT)
    (hsheet : storeT.sheet = (store.clicked clock table column).sheet)
    (hsheet' : storeT'.sheet = (store.clicked clock' table' column').sheet) :
    (storeT.clicked clock' table' column').sheet =
      (storeT'.clicked clock table column).sheet := by
  have hpage : storeT.page = _ := congrArg Prod.fst hsheet
  have hindicators : storeT.indicators = _ := congrArg Prod.snd hsheet
  have hpage' : storeT'.page = _ := congrArg Prod.fst hsheet'
  have hindicators' : storeT'.indicators = _ := congrArg Prod.snd hsheet'
  simp only [sheet, clicked] at hpage hindicators hpage' hindicators'
  simp only [sheet, clicked, hpage, hindicators, hpage', hindicators', hagrees.sorted_eq,
    hagrees.requested_eq, hagrees'.sorted_eq, hagrees'.requested_eq]
  rw [Page.withRows_comm hne, SortedMap.insert_comm _ hne]

/-- Events that do not sort the same table come to the same sheet in either order. -/
theorem step_sheet_comm (hsorted : ∀ tableId, first.sorted? = some tableId →
    second.sorted? ≠ some tableId) (store : Store) (clock clock' : Int) :
    ((store.step clock first).step clock' second).sheet =
      ((store.step clock' second).step clock first).sheet := by
  have hfirst : ∀ tableId, first.sorted? = some tableId →
      Agrees tableId store (store.step clock' second) :=
    fun tableId h => Agrees.step store clock' (hsorted tableId h)
  have hsecond : ∀ tableId, second.sorted? = some tableId →
      Agrees tableId store (store.step clock first) :=
    fun tableId h => Agrees.step store clock fun h' => hsorted tableId h' h
  have hself (tableId : String) : Agrees tableId store store := ⟨rfl, rfl, rfl⟩
  rcases step_sheet_cases store clock first with ⟨table, column, hid, hclick⟩ | hkeep
  · rcases step_sheet_cases store clock' second with ⟨table', column', hid', hclick'⟩ | hkeep'
    · have hne : table.id ≠ table'.id := fun heq => hsorted table.id hid (heq ▸ hid')
      rw [hclick _ (hfirst _ hid), hclick' _ (hsecond _ hid')]
      exact clicked_sheet_comm hne (hfirst _ hid) (hsecond _ hid') (hclick _ (hself _))
        (hclick' _ (hself _))
    · rw [hclick _ (hfirst _ hid), hkeep' _ hsecond, hclick _ (hself _)]
      exact (clicked_sheet_of_eq (hfirst _ hid) (hkeep' _ fun _ _ => hself _) clock column).symm
  · rcases step_sheet_cases store clock' second with ⟨table', column', hid', hclick'⟩ | hkeep'
    · rw [hkeep _ hfirst, hclick' _ (hsecond _ hid'), hclick' _ (hself _)]
      exact clicked_sheet_of_eq (hsecond _ hid') (hkeep _ fun _ _ => hself _) clock' column'
    · rw [hkeep' _ hsecond, hkeep _ hfirst, hkeep _ fun _ _ => hself _,
        hkeep' _ fun _ _ => hself _]

theorem step_settings (store : Store) (clock : Int) (event : Event) :
    (store.step clock event).settings = store.settings := by
  refine step_invariant (fun store' => store'.settings = store.settings)
    (fun store' haccepts => ?_) rfl
  cases haccepts <;> rfl

/-- Any two events come to the same collapsed rounds in either order. -/
theorem step_collapse_comm (store : Store) (clock clock' : Int) (first second : Event) :
    ((store.step clock first).step clock' second).collapse =
      ((store.step clock' second).step clock first).collapse := by
  have hfolds : ((store.step clock first).step clock' second).collapse.folds =
      ((store.step clock' second).step clock first).collapse.folds := by
    refine SortedMap.eq_of_get? fun round => ?_
    simp only [step_fold, step_style]
    split <;> split <;> rfl
  have hstyles : ((store.step clock first).step clock' second).collapse.style =
      ((store.step clock' second).step clock first).collapse.style := by
    simp only [step_style]
  generalize ((store.step clock first).step clock' second).collapse = there at hfolds hstyles
  generalize ((store.step clock' second).step clock first).collapse = back at hfolds hstyles
  cases there
  cases back
  congr

theorem step_selection_comm (h : first.Independent second) (store : Store) (clock clock' : Int) :
    ((store.step clock first).step clock' second).selection =
      ((store.step clock' second).step clock first).selection := by
  simp only [step_selection]
  rw [getD_getD_comm h.participant, getD_getD_comm h.round]

/-- Nothing comes of an event otherwise for an independent one before it. -/
theorem answer_step (h : first.Independent second) (store : Store) (clock clock' : Int) :
    (store.step clock' second).answer clock first = store.answer clock first := by
  cases first with
  | headerClick tableId column =>
    exact (Agrees.step store clock' (h.sorted tableId rfl)).answer_headerClick clock column
  | roundToggle round =>
    have hfold := step_fold store clock' second round
    have hanswer (store : Store) : store.answer clock (.roundToggle round) =
        if (store.collapse.folds.get? round).isSome then .ok none
        else .error (.roundNotFound round) := by
      rw [answer_eq, apply_roundToggle]
      cases store.collapse.folds.get? round <;> rfl
    rw [hanswer, hanswer, hfold]
    split <;> simp
  | _ => rfl

/-- Independent events come to the same store in either order, and to the same drawing, whatever the
    clock says at each. Each is refused for the same reason, or accepted with the same report,
    whether it comes first or second. -/
theorem step_comm (h : first.Independent second) (store : Store) (clock clock' : Int) :
    let there := (store.step clock first).step clock' second
    let back := (store.step clock' second).step clock first
    there = back ∧ there.render = back.render ∧
      (store.step clock' second).answer clock first = store.answer clock first ∧
      (store.step clock first).answer clock' second = store.answer clock' second := by
  intro there back
  have hsheet : there.sheet = back.sheet := step_sheet_comm h.sorted store clock clock'
  have hcollapse : there.collapse = back.collapse :=
    step_collapse_comm store clock clock' first second
  have hselection : there.selection = back.selection :=
    step_selection_comm h store clock clock'
  have hsettings : there.settings = back.settings := by
    simp only [there, back, step_settings]
  have hsame : there = back := by
    obtain ⟨hpage, hindicators⟩ := Prod.ext_iff.1 hsheet
    generalize there = there at *
    generalize back = back at *
    cases there
    cases back
    simp only [sheet] at hpage hindicators
    congr
  exact ⟨hsame, congrArg Store.render hsame, answer_step h store clock clock',
    answer_step h.symm store clock' clock⟩

/-- Clicks on the headers of two tables, which share the indicators, in two years. -/
theorem step_comm_twoTables :
    let left : Table := { Table.ofTexts ["2", "1"] with id := "left" }
    let right : Table := { Table.ofTexts ["4", "3"] with id := "right" }
    let store := new ⟨"", none, [left, right], []⟩ {}
    let first : Event := .headerClick "left" 0
    let second : Event := .headerClick "right" 0
    first.Independent second ∧
      (store.step 2024 first).step 2025 second = (store.step 2025 second).step 2024 first ∧
      (store.step 2025 second).answer 2024 first = store.answer 2024 first ∧
      (store.answer 2024 first).isOk = true ∧
      ((store.step 2025 second).step 2024 first).render.rowOrders =
        [⟨"left", ["1", "2"]⟩, ⟨"right", ["3", "4"]⟩] := by
  intro left right store first second
  have hindependent : first.Independent second :=
    ⟨.inl rfl, .inl rfl, by rintro tableId h; cases h; decide⟩
  obtain ⟨hsame, -, hanswer, -⟩ := step_comm hindependent store 2024 2025
  exact ⟨hindependent, hsame, hanswer, by decide +kernel, by decide +kernel⟩

end Store

end Scoreboard
