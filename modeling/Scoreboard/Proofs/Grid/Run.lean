import Mathlib.Data.List.Forall2
import Scoreboard.Proofs.Grid.Click
import Scoreboard.Proofs.SortedMap

/-!
# Series of events

What one event does to a store, and what a series of events therefore does to each part of it.

## Main definitions

- `Store.Accepts` — a store takes an event, and becomes another store
- `Store.accepted` — the events of a series that are not refused
- `Page.Rearranged` — the same page, but for the order of the rows in each table
- `Store.lastParticipant`, `Store.lastRound` — the choices that a series of events leaves
- `Store.toggles` — how often a series of events toggles a round

## Main statements

- `Store.step_cases` — an event is accepted, or changes nothing
- `Store.step_invariant` — what an event keeps if it is accepted, it keeps
- `Store.run_invariant` — whatever every accepted event keeps, a series of events keeps
- `Store.run_selection` — the selection is made of the last choices
- `Store.run_rearranged` — a series of events rearranges the page at most

## Design notes

Every part of a store is the work of some events alone. So each part has its own account of a series
of events, and no account needs the others. The events of a series come each with a year of the
clock; most accounts are told from the events without it.
-/

namespace Scoreboard

/-- The participant that an event chooses, or that it leaves no participant chosen. -/
def Event.participantChoice? : Event → Option (Option ParticipantId)
  | .participantClick participant => some (some participant)
  | .participantReset => some none
  | _ => none

/-- The round that an event chooses, or that it leaves no round chosen. -/
def Event.roundChoice? : Event → Option (Option RoundId)
  | .roundSelect round => some (some round)
  | .roundReset => some none
  | _ => none

/-- The last of the choices that a series of events makes, or else the one before it. -/
def lastChoice {α : Type} (choice? : Event → Option α) (first : α) (events : List Event) : α :=
  (events.filterMap choice?).getLast?.getD first

theorem lastChoice_cons {α : Type} (choice? : Event → Option α) (first : α) (event : Event)
    (events : List Event) :
    lastChoice choice? first (event :: events) =
      lastChoice choice? ((choice? event).getD first) events := by
  unfold lastChoice
  cases hchoice : choice? event with
  | none => rw [List.filterMap_cons_none hchoice, Option.getD_none]
  | some choice =>
    rw [List.filterMap_cons_some hchoice, List.getLast?_cons, Option.getD_some, Option.getD_some]

namespace Store

/-- A store takes an event, and becomes another store. -/
inductive Accepts (store : Store) (clock : Int) : Event → Store → Prop where
  /-- A click on the header of a column that is there sorts its table. -/
  | headerClick (table : Table) (column : UInt64)
      (htable : store.page.table? table.id = some table)
      (hcolumn : column.toNat < table.columns.length) :
      Accepts store clock (.headerClick table.id column)
        (store.clicked clock table column.toNat)
  /-- A participant is chosen. -/
  | participantClick (participant : ParticipantId) :
      Accepts store clock (.participantClick participant)
        { store with selection := { store.selection with participant := some participant } }
  /-- No participant is chosen any more. -/
  | participantReset :
      Accepts store clock .participantReset
        { store with selection := { store.selection with participant := none } }
  /-- A round is chosen. -/
  | roundSelect (round : RoundId) :
      Accepts store clock (.roundSelect round)
        { store with selection := { store.selection with round := some round } }
  /-- No round is chosen any more. -/
  | roundReset :
      Accepts store clock .roundReset
        { store with selection := { store.selection with round := none } }
  /-- A round that has a header is collapsed or expanded. -/
  | roundToggle (round : RoundId) (fold : Fold)
      (hfold : store.collapse.folds.get? round = some fold) :
      Accepts store clock (.roundToggle round)
        { store with
          collapse :=
            { store.collapse with
              folds := store.collapse.folds.insert round (fold.toggle store.collapse.style) } }

variable {store store' : Store} {clock : Int} {event : Event}

/-- A toggle is refused if the round has no header. -/
theorem apply_roundToggle (store : Store) (clock : Int) (round : RoundId) :
    store.apply clock (.roundToggle round) =
      match store.collapse.folds.get? round with
      | none => .error (.roundNotFound round)
      | some fold =>
        .ok ({ store with
          collapse :=
            { store.collapse with
              folds := store.collapse.folds.insert round (fold.toggle store.collapse.style) } },
          none) := by
  simp only [apply, Collapse.toggle]
  cases store.collapse.folds.get? round <;> rfl

/-- An event is accepted, with some report, or refused for some reason. -/
theorem apply_cases (store : Store) (clock : Int) (event : Event) :
    (∃ store' report, store.apply clock event = .ok (store', report) ∧
        store.Accepts clock event store') ∨
      ∃ error, store.apply clock event = .error error := by
  cases event with
  | headerClick tableId column =>
    rw [apply_headerClick]
    cases htable : store.page.table? tableId with
    | none => exact .inr ⟨_, rfl⟩
    | some table =>
      have hid := Page.id_of_table? htable
      subst hid
      by_cases hcolumn : column.toNat < table.columns.length
      · exact .inl ⟨_, _, if_pos hcolumn, .headerClick table column htable hcolumn⟩
      · exact .inr ⟨_, if_neg hcolumn⟩
  | participantClick participant => exact .inl ⟨_, _, rfl, .participantClick participant⟩
  | participantReset => exact .inl ⟨_, _, rfl, .participantReset⟩
  | roundSelect round => exact .inl ⟨_, _, rfl, .roundSelect round⟩
  | roundReset => exact .inl ⟨_, _, rfl, .roundReset⟩
  | roundToggle round =>
    rw [apply_roundToggle]
    cases hfold : store.collapse.folds.get? round with
    | none => exact .inr ⟨_, rfl⟩
    | some fold => exact .inl ⟨_, none, rfl, .roundToggle round fold hfold⟩

/-- An event is accepted, or changes nothing. -/
theorem step_cases (store : Store) (clock : Int) (event : Event) :
    (store.Accepts clock event (store.step clock event) ∧
        (store.apply clock event).isOk = true) ∨
      (store.step clock event = store ∧ (store.apply clock event).isOk = false) := by
  rcases apply_cases store clock event with ⟨store', report, happly, haccepts⟩ | ⟨error, happly⟩
  · refine .inl ⟨?_, by rw [happly]; rfl⟩
    unfold step
    rw [happly]
    exact haccepts
  · refine .inr ⟨?_, by rw [happly]; rfl⟩
    unfold step
    rw [happly]

/-- An event that is accepted is answered with what there is to draw then. -/
theorem handle_eq_ok_iff {render : Render} :
    store.handle clock event = .ok (store', render) ↔
      ∃ sort, store.apply clock event = .ok (store', sort) ∧
        render = { store'.render with sort } := by
  unfold handle
  cases store.apply clock event with
  | error error =>
    constructor
    · intro h
      cases h
    · rintro ⟨sort, h, -⟩
      cases h
  | ok answer =>
    obtain ⟨next, sort⟩ := answer
    constructor
    · intro h
      cases h
      exact ⟨sort, rfl, rfl⟩
    · rintro ⟨sort, h, rfl⟩
      cases h
      rfl

/-- What is told after an event is what there is to draw then, with the report of a sort. -/
theorem render_of_handle {render : Render} (h : store.handle clock event = .ok (store', render)) :
    store' = store.step clock event ∧ ∃ sort, render = { store'.render with sort } := by
  obtain ⟨sort, happly, rfl⟩ := handle_eq_ok_iff.1 h
  refine ⟨?_, sort, rfl⟩
  unfold step
  rw [happly]

/-- What holds before an event and after it if it is accepted, holds after it. -/
theorem step_invariant (inv : Store → Prop)
    (keeps : ∀ store', store.Accepts clock event store' → inv store') (h : inv store) :
    inv (store.step clock event) := by
  rcases step_cases store clock event with ⟨haccepts, -⟩ | ⟨hsame, -⟩
  · exact keeps _ haccepts
  · rwa [hsame]

/-- Whatever every accepted event keeps, a series of events keeps. -/
theorem run_invariant (inv : Store → Prop)
    (keeps : ∀ {store store' : Store} {clock : Int} {event : Event},
      store.Accepts clock event store' → inv store → inv store')
    (h : inv store) (events : List (Int × Event)) : inv (store.run events) := by
  induction events generalizing store with
  | nil => exact h
  | cons entry events ih =>
    obtain ⟨clock, event⟩ := entry
    show inv ((store.step clock event).run events)
    exact ih (step_invariant inv (fun _ haccepts => keeps haccepts h) h)

/-- What a click at some time compares is the same after an event as before it. -/
theorem Accepts.comparison_eq (h : store.Accepts clock event store') :
    store'.comparison = store.comparison := by
  cases h <;> rfl

theorem step_comparison (store : Store) (clock : Int) (event : Event) :
    (store.step clock event).comparison = store.comparison :=
  step_invariant (fun store' => store'.comparison = store.comparison)
    (fun _ haccepts => haccepts.comparison_eq) rfl

theorem run_comparison (store : Store) (events : List (Int × Event)) :
    (store.run events).comparison = store.comparison :=
  run_invariant (fun store' => store'.comparison = store.comparison)
    (fun haccepts h => haccepts.comparison_eq.trans h) rfl events

theorem run_append (store : Store) (events more : List (Int × Event)) :
    store.run (events ++ more) = (store.run events).run more :=
  List.foldl_append

/-- The events of a series that are not refused. -/
def accepted (store : Store) : List (Int × Event) → List Event
  | [] => []
  | (clock, event) :: events =>
    if (store.apply clock event).isOk then event :: accepted (store.step clock event) events
    else accepted (store.step clock event) events

/-- How often a series of events toggles a round. -/
def toggles (store : Store) (events : List (Int × Event)) (round : RoundId) : Nat :=
  (store.accepted events).count (.roundToggle round)

/-- The participant that a series of events leaves chosen, if nothing was chosen before. -/
def lastParticipant (events : List Event) : Option ParticipantId :=
  lastChoice Event.participantChoice? none events

/-- The round that a series of events leaves chosen, if nothing was chosen before. -/
def lastRound (events : List Event) : Option RoundId :=
  lastChoice Event.roundChoice? none events

/-- The selection after one event. -/
theorem step_selection (store : Store) (clock : Int) (event : Event) :
    (store.step clock event).selection =
      ⟨event.participantChoice?.getD store.selection.participant,
        event.roundChoice?.getD store.selection.round⟩ := by
  rcases step_cases store clock event with ⟨haccepts, -⟩ | ⟨hsame, hrefused⟩
  · generalize store.step clock event = store' at haccepts
    cases haccepts <;> rfl
  · -- What makes a choice is never refused.
    rw [hsame]
    cases event with
    | headerClick tableId column => rfl
    | participantClick participant => cases hrefused
    | participantReset => cases hrefused
    | roundSelect round => cases hrefused
    | roundReset => cases hrefused
    | roundToggle round => rfl

/-- What every event sets to its own choice, if it makes one, a series of events sets to the last
    choice. -/
theorem run_lastChoice {α : Type} (part : Store → α) {choice? : Event → Option α}
    (hstep : ∀ store clock event,
      part (store.step clock event) = (choice? event).getD (part store))
    (store : Store) (events : List (Int × Event)) :
    part (store.run events) = lastChoice choice? (part store) (events.map Prod.snd) := by
  induction events generalizing store with
  | nil => rfl
  | cons entry events ih =>
    obtain ⟨clock, event⟩ := entry
    -- The rest of the series goes on from the choice of its first event.
    rw [List.map_cons, lastChoice_cons, ← hstep store clock]
    exact ih (store.step clock event)

/-- The selection is made of the last choices. -/
theorem run_selection (page : Page) (settings : Settings) (events : List (Int × Event)) :
    ((Store.new page settings).run events).selection =
      ⟨lastParticipant (events.map Prod.snd), lastRound (events.map Prod.snd)⟩ := by
  have hparticipant := run_lastChoice (fun store => store.selection.participant)
    (fun store clock event => congrArg Selection.participant (step_selection store clock event))
    (Store.new page settings) events
  have hround := run_lastChoice (fun store => store.selection.round)
    (fun store clock event => congrArg Selection.round (step_selection store clock event))
    (Store.new page settings) events
  exact congrArg₂ Selection.mk hparticipant hround

end Store

/-- The same table, but for the order of its rows. -/
structure Table.Rearranged (table table' : Table) : Prop where
  /-- Everything else is the same. -/
  same : table' = { table with rows := table'.rows }
  /-- The rows are the same. -/
  perm : table'.rows.Perm table.rows

/-- The same page, but for the order of the rows in each table. -/
structure Page.Rearranged (page page' : Page) : Prop where
  /-- Everything outside the tables is the same. -/
  same : page' = { page with tables := page'.tables }
  /-- The tables are the same, but for the order of their rows. -/
  tables : List.Forall₂ Table.Rearranged page.tables page'.tables

namespace Table.Rearranged

variable {table table' table'' : Table}

theorem refl (table : Table) : table.Rearranged table :=
  ⟨rfl, List.Perm.refl _⟩

instance : Std.Refl Table.Rearranged := ⟨refl⟩

theorem trans (h : table.Rearranged table') (h' : table'.Rearranged table'') :
    table.Rearranged table'' where
  same := by
    rw [h'.same, h.same]
  perm := h'.perm.trans h.perm

theorem id_eq (h : table.Rearranged table') : table'.id = table.id := by
  rw [h.same]

theorem columns_eq (h : table.Rearranged table') : table'.columns = table.columns := by
  rw [h.same]

theorem groups_eq (h : table.Rearranged table') : table'.groups = table.groups := by
  rw [h.same]

theorem symm (h : table.Rearranged table') : table'.Rearranged table where
  same := by
    rw [h.same]
  perm := h.perm.symm

theorem forall₂_trans {tables tables' tables'' : List Table}
    (h : List.Forall₂ Table.Rearranged tables tables')
    (h' : List.Forall₂ Table.Rearranged tables' tables'') :
    List.Forall₂ Table.Rearranged tables tables'' := by
  induction h generalizing tables'' with
  | nil =>
    cases h'
    exact .nil
  | cons hhead _ ih =>
    cases h' with
    | cons hhead' htail' => exact .cons (hhead.trans hhead') (ih htail')

end Table.Rearranged

namespace Page.Rearranged

variable {page page' page'' : Page}

theorem refl (page : Page) : page.Rearranged page :=
  ⟨rfl, List.forall₂_refl _⟩

theorem trans (h : page.Rearranged page') (h' : page'.Rearranged page'') :
    page.Rearranged page'' where
  same := by
    rw [h'.same, h.same]
  tables := Table.Rearranged.forall₂_trans h.tables h'.tables

theorem symm (h : page.Rearranged page') : page'.Rearranged page where
  same := by
    rw [h.same]
  tables := List.Forall₂.flip (h.tables.imp fun _ _ hsame => hsame.symm)

end Page.Rearranged

namespace Store

variable {store store' : Store} {clock : Int} {event : Event}

/-- An event rearranges the page at most. -/
theorem Accepts.rearranged (h : store.Accepts clock event store') :
    store.page.Rearranged store'.page := by
  cases h with
  | headerClick table column htable hcolumn =>
    obtain ⟨front, back, htables, -, hreplace⟩ :=
      replaceFirst_of_find?
        { table with rows := (store.sorted clock table column.toNat).rows } htable
    have hsorted : (store.sorted clock table column.toNat).rows.Perm table.rows :=
      Comparison.sort_perm ..
    refine ⟨rfl, ?_⟩
    show List.Forall₂ Table.Rearranged store.page.tables
      (replaceFirst (fun other => other.id = table.id) _ store.page.tables)
    rw [hreplace, htables]
    exact List.rel_append (List.forall₂_refl front)
      (.cons ⟨rfl, hsorted⟩ (List.forall₂_refl back))
  | participantClick participant => exact .refl _
  | participantReset => exact .refl _
  | roundSelect chosen => exact .refl _
  | roundReset => exact .refl _
  | roundToggle toggled fold hfold => exact .refl _

theorem run_rearranged (store : Store) (events : List (Int × Event)) :
    store.page.Rearranged (store.run events).page :=
  run_invariant (fun store' => store.page.Rearranged store'.page)
    (fun haccepts h => h.trans haccepts.rearranged) (.refl _) events

end Store

end Scoreboard
