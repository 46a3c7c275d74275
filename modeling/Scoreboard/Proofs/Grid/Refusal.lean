import Scoreboard.Proofs.Grid.Edit
import Scoreboard.Proofs.Grid.Fold
import Scoreboard.Proofs.Page.WellFormed

/-!
# Refused events

Whether an event is refused can be told from the page as it was at first: events come and go, but
the tables keep their names and columns, and the rounds that can be collapsed stay the same.

## Main definitions

- `Page.Refuses` — a page refuses an event for some reason
- `Store.Follows` — a store is what became of a page

## Main statements

- `Store.apply_eq_error_iff` — what became of a page refuses what the page refuses
- `Store.run_refuses_iff` — refused events after any series of events
-/

namespace Scoreboard

namespace Page

/-- A page refuses an event for some reason. -/
inductive Refuses (page : Page) : Event → GridError → Prop where
  /-- No table has the name. -/
  | tableNotFound (tableId : String) (column : UInt64)
      (hnone : ∀ table ∈ page.tables, table.id ≠ tableId) :
      Refuses page (.headerClick tableId column) (.tableNotFound tableId)
  /-- The first table of the name has too few columns. -/
  | columnOutOfRange (front back : List Table) (table : Table) (column : UInt64)
      (htables : page.tables = front ++ table :: back)
      (hfirst : ∀ other ∈ front, other.id ≠ table.id)
      (hcolumn : table.columns.length ≤ column.toNat) :
      Refuses page (.headerClick table.id column)
        (.columnOutOfRange table.id column.toNat table.columns.length)
  /-- No table has a header for the round. -/
  | roundNotFound (round : RoundId)
      (hnone : ∀ table ∈ page.tables, ∀ header ∈ table.groups, header.round ≠ round) :
      Refuses page (.roundToggle round) (.roundNotFound round)

/-- Some table has a header for the round. -/
def hasRound (page : Page) (round : RoundId) : Bool :=
  page.groupHeaders.any fun header => header.round = round

/-- The reason for which a page refuses an event, if it does. -/
def refusal? (page : Page) : Event → Option GridError
  | .headerClick tableId column =>
    match page.table? tableId with
    | none => some (.tableNotFound tableId)
    | some table =>
      if column.toNat < table.columns.length then none
      else some (.columnOutOfRange table.id column.toNat table.columns.length)
  | .roundToggle round => if page.hasRound round then none else some (.roundNotFound round)
  | _ => none

variable {page page' : Page}

theorem table?_eq_none_iff {tableId : String} :
    page.table? tableId = none ↔ ∀ table ∈ page.tables, table.id ≠ tableId := by
  unfold table?
  rw [List.find?_eq_none]
  simp only [decide_eq_true_eq, ne_eq]

theorem table?_eq_some_iff {tableId : String} {table : Table} :
    page.table? tableId = some table ↔ table.id = tableId ∧
      ∃ front back, page.tables = front ++ table :: back ∧
        ∀ other ∈ front, other.id ≠ tableId := by
  unfold table?
  rw [List.find?_eq_some_iff_append]
  simp only [decide_eq_true_eq, Bool.not_eq_true', decide_eq_false_iff_not, ne_eq]

/-- Where tables have distinct names, each is the first one of its name. -/
theorem table?_of_nodup (hnodup : (page.tables.map Table.id).Nodup) {table : Table}
    (htable : table ∈ page.tables) : page.table? table.id = some table := by
  obtain ⟨front, back, htables⟩ := List.append_of_mem htable
  rw [htables] at hnodup
  exact table?_eq_some_iff.2 ⟨rfl, front, back, htables, (List.ne_of_nodup_map hnodup).1⟩

theorem hasRound_eq_false_iff {round : RoundId} :
    page.hasRound round = false ↔
      ∀ table ∈ page.tables, ∀ header ∈ table.groups, header.round ≠ round := by
  unfold hasRound groupHeaders
  simp only [List.any_eq_false, List.mem_flatMap, decide_eq_true_eq, forall_exists_index, and_imp]
  constructor
  · intro h table htable header hheader
    exact h header table htable hheader
  · intro h header table htable hheader
    exact h table htable header hheader

theorem refusal?_eq_some_iff {event : Event} {error : GridError} :
    page.refusal? event = some error ↔ page.Refuses event error := by
  constructor
  · intro h
    cases event with
    | headerClick tableId column =>
      unfold refusal? at h
      dsimp only at h
      cases htable : page.table? tableId with
      | none =>
        rw [htable] at h
        cases h
        exact .tableNotFound tableId column (table?_eq_none_iff.1 htable)
      | some table =>
        obtain ⟨rfl, front, back, htables, hfirst⟩ := table?_eq_some_iff.1 htable
        simp only [htable] at h
        split at h
        · cases h
        · next hcolumn =>
          cases h
          exact .columnOutOfRange front back table column htables hfirst (Nat.le_of_not_lt hcolumn)
    | roundToggle round =>
      unfold refusal? at h
      dsimp only at h
      split at h
      · cases h
      · next hround =>
        cases h
        exact .roundNotFound round (hasRound_eq_false_iff.1 (Bool.not_eq_true _ ▸ hround))
    | _ => cases h
  · intro h
    unfold refusal?
    cases h with
    | tableNotFound tableId column hnone => simp only [table?_eq_none_iff.2 hnone]
    | columnOutOfRange front back table column htables hfirst hcolumn =>
      have htable : page.table? table.id = some table :=
        table?_eq_some_iff.2 ⟨rfl, front, back, htables, hfirst⟩
      simp only [htable, Nat.not_lt.2 hcolumn, if_false]
    | roundNotFound round hnone =>
      simp only [hasRound_eq_false_iff.2 hnone, Bool.false_eq_true, if_false]

instance (page : Page) (event : Event) : Decidable (∃ error, page.Refuses event error) :=
  decidable_of_iff ((page.refusal? event).isSome = true) <| by
    rw [Option.isSome_iff_exists]
    exact exists_congr fun _ => refusal?_eq_some_iff

/-- Of a rearranged page, the first table of a name is that of the page. -/
theorem Rearranged.table? (h : page.Rearranged page') (tableId : String) :
    Option.Rel Table.Rearranged (page.table? tableId) (page'.table? tableId) := by
  have htables := h.tables
  unfold Page.table?
  generalize page.tables = tables at htables ⊢
  generalize page'.tables = tables' at htables ⊢
  induction htables with
  | nil => exact .none
  | @cons table table' _ _ hhead _ ih =>
    rw [List.find?_cons, List.find?_cons, hhead.id_eq]
    split
    · exact .some hhead
    · exact ih

end Page

namespace Collapse

/-- Just the rounds of a page that have a header can be collapsed. -/
theorem isSome_get?_ofPage (page : Page) (style : CollapseStyle) (round : RoundId) :
    ((ofPage page style).folds.get? round).isSome = page.hasRound round := by
  rw [get?_ofPage, Option.isSome_map, Page.header?, Page.hasRound, List.isSome_find?]

end Collapse

namespace Store

/-- A store is what became of a page: its tables are rearranged, and the rounds that can be
    collapsed are those of the page. -/
structure Follows (page : Page) (store : Store) : Prop where
  rearranged : page.Rearranged store.page
  rounds : ∀ round, (store.collapse.folds.get? round).isSome = page.hasRound round

variable {page : Page} {store store' : Store} {clock : Int} {event : Event}

theorem follows_new (page : Page) (settings : Settings) : Follows page (new page settings) :=
  ⟨.refl page, Collapse.isSome_get?_ofPage page settings.collapse⟩

theorem Follows.accepts (h : Follows page store) (haccepts : store.Accepts clock event store') :
    Follows page store' := by
  refine ⟨h.rearranged.trans haccepts.rearranged, fun round => ?_⟩
  rw [← h.rounds]
  cases haccepts with
  | roundToggle toggled fold hfold =>
    -- Only a round that is there already is written.
    simp only [SortedMap.get?_insert]
    split
    · next heq => rw [heq, hfold, Option.isSome_some, Option.isSome_some]
    · rfl
  | _ => rfl

theorem follows_run (page : Page) (settings : Settings) (events : List (Int × Event)) :
    Follows page ((new page settings).run events) :=
  run_invariant (Follows page) (fun haccepts h => h.accepts haccepts)
    (follows_new page settings) events

/-- What became of a page refuses just what the page refuses, for the same reason. -/
theorem apply_eq_error_iff (h : Follows page store) {error : GridError} :
    store.apply clock event = .error error ↔ page.Refuses event error := by
  rw [← Page.refusal?_eq_some_iff]
  unfold Page.refusal?
  cases event with
  | headerClick tableId column =>
    dsimp only
    have hsame := h.rearranged.table? tableId
    rw [apply_headerClick]
    generalize page.table? tableId = found at hsame
    generalize store.page.table? tableId = found' at hsame
    cases hsame with
    | none => simp
    | some htable =>
      simp only [htable.id_eq, htable.columns_eq]
      split <;> simp
  | roundToggle round =>
    dsimp only
    rw [apply_roundToggle, ← h.rounds round]
    cases store.collapse.folds.get? round <;> simp
  | _ => constructor <;> intro herror <;> cases herror

theorem handle_eq_error_iff {error : GridError} :
    store.handle clock event = .error error ↔ store.apply clock event = .error error := by
  unfold handle
  cases store.apply clock event with
  | error error' =>
    show (Except.error error' : Except GridError (Store × Render)) = .error error ↔ _
    rw [Except.error.injEq, Except.error.injEq]
  | ok answer => constructor <;> intro herror <;> cases herror

theorem step_of_error {error : GridError} (h : store.apply clock event = .error error) :
    store.step clock event = store := by
  unfold step
  rw [h]

/-- A series of events does what it does without those that the page refuses. -/
theorem run_filter (h : Follows page store) (events : List (Int × Event)) :
    store.run (events.filter fun entry => ¬ ∃ error, page.Refuses entry.2 error) =
      store.run events := by
  induction events generalizing store with
  | nil => rfl
  | cons entry events ih =>
    obtain ⟨clock, event⟩ := entry
    by_cases hrefused : ∃ error, page.Refuses event error
    · obtain ⟨error, herror⟩ := hrefused
      have hsame : store.step clock event = store :=
        step_of_error ((apply_eq_error_iff h).2 herror)
      rw [List.filter_cons_of_neg (by simpa using ⟨error, herror⟩), ih h]
      show store.run events = (store.step clock event).run events
      rw [hsame]
    · rw [List.filter_cons_of_pos (by simpa using hrefused)]
      show (store.step clock event).run _ = (store.step clock event).run events
      exact ih (step_invariant (Follows page) (fun _ haccepts => h.accepts haccepts) h)

/-- After any series of events, an event is refused just when the page as it was at first refuses
    it, and for that reason. A refused event changes nothing, even where it is carried out in place.
    So a series of events does what it does without those that the page refuses. -/
theorem run_refuses_iff (page : Page) (settings : Settings) (events : List (Int × Event)) :
    let start := new page settings
    let store := start.run events
    let kept := events.filter fun entry : Int × Event => ¬ ∃ error, page.Refuses entry.2 error
    (∀ clock event error, store.handle clock event = .error error ↔ page.Refuses event error) ∧
      (∀ clock event error, page.Refuses event error →
        store.step clock event = store ∧
          (handleInPlace clock event).outcome store = (.error error, store)) ∧
      start.run kept = store ∧ (start.run kept).render = store.render := by
  intro start store kept
  have hfollows : Follows page store := follows_run page settings events
  have hkept : start.run kept = store := run_filter (follows_new page settings) events
  refine ⟨?_, ?_, hkept, congrArg Store.render hkept⟩
  · intro clock event error
    rw [handle_eq_error_iff, apply_eq_error_iff hfollows]
  · intro clock event error hrefuses
    have herror : store.apply clock event = .error error :=
      (apply_eq_error_iff hfollows).2 hrefuses
    have hplace := performs_handleInPlace store clock event
    unfold Edit.Performs at hplace
    rw [handle_eq_error_iff.2 herror] at hplace
    exact ⟨step_of_error herror, hplace⟩

end Store

end Scoreboard
