import Scoreboard.Proofs.Grid.Click

/-!
# Interactions in place

An interaction can be carried out on a store in place, one part after the other, so that whatever
was written before a refusal would stay. Each layer looks before it writes. So an interaction in
place comes out as `Store.handle` says, and a refused one has written nothing.

## Main definitions

- `Edit` — a program that changes something in place and may be refused halfway
- `Edit.Performs` — a program gives an answer, and writes nothing if that is a refusal
- `Store.handleInPlace` — an interaction in place

## Main statements

- `Store.performs_handleInPlace` — an interaction in place is all or nothing
-/

namespace Scoreboard

/-- A program that changes something in place. If it is refused, what it has written by then
    stays. -/
abbrev Edit (σ α : Type) :=
  ExceptT GridError (StateM σ) α

namespace Edit

variable {σ τ α β : Type}

/-- The answer of a program, and what it leaves. -/
def outcome (edit : Edit σ α) (s : σ) : Except GridError α × σ :=
  StateT.run (ExceptT.run edit) s

/-- A program gives an answer. If the answer is a refusal, everything is as it was. -/
def Performs (edit : Edit σ α) (s : σ) (answer : Except GridError (σ × α)) : Prop :=
  edit.outcome s =
    match answer with
    | .ok (t, a) => (.ok a, t)
    | .error error => (.error error, s)

theorem outcome_get_bind (next : σ → Edit σ α) (s : σ) :
    outcome (do next (← get)) s = (next s).outcome s :=
  rfl

/-- A program carried out on a part of something. The part is put back even after a refusal. -/
def within (get : σ → τ) (put : τ → σ → σ) (edit : Edit τ α) : Edit σ α :=
  ExceptT.mk fun s =>
    let (answer, t) := edit.outcome (get s)
    (answer, put t s)

theorem Performs.within {edit : Edit τ α} (get : σ → τ) {put : τ → σ → σ} {s : σ}
    {answer : Except GridError (τ × α)} (h : edit.Performs (get s) answer)
    (hput : put (get s) s = s) :
    (edit.within get put).Performs s (answer.map fun result => (put result.1 s, result.2)) := by
  unfold Performs at h ⊢
  show ((edit.outcome (get s)).1, put (edit.outcome (get s)).2 s) = _
  rw [h]
  cases answer with
  | ok result => rfl
  | error error => exact congrArg (Prod.mk _) hput

/-- What comes after a program is left out if the program is refused. -/
theorem Performs.andThen {edit : Edit σ α} {next : α → Edit σ β} {s : σ}
    {answer : Except GridError (σ × α)} {f : σ → α → β} (h : edit.Performs s answer)
    (hnext : ∀ t a, (next a).Performs t (.ok (t, f t a))) :
    Performs (do next (← edit)) s (answer.map fun result => (result.1, f result.1 result.2)) := by
  unfold Performs at h ⊢
  have hbind : outcome (do next (← edit)) s =
      match edit.outcome s with
      | (.ok a, t) => (next a).outcome t
      | (.error error, t) => (.error error, t) := by
    show StateT.run (ExceptT.run edit >>= ExceptT.bindCont next) s = _
    rw [StateT.run_bind]
    show (match edit.outcome s with
      | (answer, t) => StateT.run (ExceptT.bindCont next answer) t) = _
    cases edit.outcome s with
    | mk answer t => cases answer <;> rfl
  rw [hbind, h]
  cases answer with
  | ok result => exact hnext result.1 result.2
  | error error => rfl

end Edit

/-- A click on a column in place: the rows are put in order, then the indicator is set. -/
def Table.clickInPlace (comparison : Comparison) : Edit (Table × Indicators) SortReport := do
  let (table, indicators) ← get
  if comparison.column < table.columns.length then
    let requested := Direction.next (indicators.direction? table.id comparison.column)
    let sorted := comparison.sort requested table.rows
    modify fun state => ({ state.1 with rows := sorted.rows }, state.2)
    modify fun state => (state.1, state.2.insert table.id ⟨comparison.column, requested⟩)
    let (table', _) ← get
    return {
      tableId := table.id
      column := comparison.column
      requested := requested
      applied := sorted.applied
      flipped := sorted.flipped
      swaps := sorted.swaps
      before := table.rowIds
      after := table'.rowIds }
  else
    throw (.columnOutOfRange table.id comparison.column table.columns.length)

/-- A click on the header of a round in place. -/
def Collapse.toggleInPlace (round : RoundId) : Edit Collapse GroupView := do
  let collapse ← get
  match collapse.folds.get? round with
  | none => throw (.roundNotFound round)
  | some fold =>
    let fold := fold.toggle collapse.style
    set { collapse with folds := collapse.folds.insert round fold }
    return fold.view collapse.style round

namespace Store

/-- The store with a table put back in its place, and the indicators. -/
def putBack (tableId : String) (state : Table × Indicators) (store : Store) : Store :=
  { store with
    page := { store.page with
      tables := replaceFirst (fun other => other.id = tableId) state.1 store.page.tables }
    indicators := state.2 }

/-- A click on the header of a column in place. -/
def clickInPlace (clock : Int) (tableId : String) (column : Nat) : Edit Store SortReport := do
  let store ← get
  match store.page.table? tableId with
  | none => throw (.tableNotFound tableId)
  | some table =>
    (Table.clickInPlace (store.comparison clock table column)).within
      (fun store => (table, store.indicators)) (putBack tableId)

/-- An interaction in place, up to what there is to draw. -/
def applyInPlace (clock : Int) : Event → Edit Store (Option SortReport)
  | .headerClick tableId column => do
    return some (← clickInPlace clock tableId column.toNat)
  | .participantClick participant => do
    modify fun store =>
      { store with selection := { store.selection with participant := some participant } }
    return none
  | .participantReset => do
    modify fun store => { store with selection := { store.selection with participant := none } }
    return none
  | .roundSelect round => do
    modify fun store => { store with selection := { store.selection with round := some round } }
    return none
  | .roundReset => do
    modify fun store => { store with selection := { store.selection with round := none } }
    return none
  | .roundToggle round => do
    let _ ← (Collapse.toggleInPlace round).within Store.collapse
      fun collapse store => { store with collapse }
    return none

/-- An interaction in place, and what to draw. -/
def handleInPlace (clock : Int) (event : Event) : Edit Store Render := do
  let sort ← applyInPlace clock event
  return { (← get).render with sort }

end Store

theorem Table.performs_clickInPlace (comparison : Comparison) (table : Table)
    (indicators : Indicators) :
    (Table.clickInPlace comparison).Performs (table, indicators)
      ((table.click indicators comparison).map fun result =>
        ((result.1, result.2.1), result.2.2)) := by
  unfold Edit.Performs Table.clickInPlace Table.click
  rw [Edit.outcome_get_bind]
  dsimp only
  by_cases hcolumn : comparison.column < table.columns.length
  · rw [if_pos hcolumn, if_pos hcolumn]
    rfl
  · rw [if_neg hcolumn, if_neg hcolumn]
    rfl

theorem Collapse.performs_toggleInPlace (round : RoundId) (collapse : Collapse) :
    (toggleInPlace round).Performs collapse (collapse.toggle round) := by
  unfold Edit.Performs toggleInPlace toggle
  rw [Edit.outcome_get_bind]
  cases collapse.folds.get? round with
  | none => rfl
  | some fold => rfl

namespace Store

theorem replaceFirst_self {α : Type} {test : α → Bool} {a : α} {xs : List α}
    (h : xs.find? test = some a) : replaceFirst test a xs = xs := by
  obtain ⟨front, back, hxs, -, hreplace⟩ := replaceFirst_of_find? a h
  rw [hreplace, hxs]

theorem performs_clickInPlace (store : Store) (clock : Int) (tableId : String) (column : Nat) :
    (clickInPlace clock tableId column).Performs store (store.click clock tableId column) := by
  unfold Edit.Performs clickInPlace
  rw [Edit.outcome_get_bind]
  cases htable : store.page.table? tableId with
  | none =>
    simp only [click, htable]
    rfl
  | some table =>
    have hput : putBack tableId (table, store.indicators) store = store := by
      unfold putBack
      rw [replaceFirst_self htable]
    have hwithin : ((Table.clickInPlace (store.comparison clock table column)).within
        (fun store => (table, store.indicators)) (putBack tableId)).Performs store _ :=
      (Table.performs_clickInPlace _ table store.indicators).within
        (fun store : Store => (table, store.indicators)) hput
    have hanswer : store.click clock tableId column =
        ((table.click store.indicators (store.comparison clock table column)).map fun result =>
          ((result.1, result.2.1), result.2.2)).map fun result =>
            (putBack tableId result.1 store, result.2) := by
      simp only [click, htable]
      cases table.click store.indicators (store.comparison clock table column) <;> rfl
    rw [hanswer]
    exact hwithin

theorem performs_applyInPlace (store : Store) (clock : Int) (event : Event) :
    (applyInPlace clock event).Performs store (store.apply clock event) := by
  cases event with
  | headerClick tableId column =>
    have hclick : (applyInPlace clock (.headerClick tableId column)).Performs store _ :=
      (performs_clickInPlace store clock tableId column.toNat).andThen fun t report => rfl
    have hanswer : store.apply clock (.headerClick tableId column) =
        (store.click clock tableId column.toNat).map fun result => (result.1, some result.2) := by
      simp only [apply]
      cases store.click clock tableId column.toNat <;> rfl
    rw [hanswer]
    exact hclick
  | participantClick participant => rfl
  | participantReset => rfl
  | roundSelect round => rfl
  | roundReset => rfl
  | roundToggle round =>
    have htoggle : (applyInPlace clock (.roundToggle round)).Performs store _ :=
      ((Collapse.performs_toggleInPlace round store.collapse).within Store.collapse rfl).andThen
        fun t view => rfl
    have hanswer : store.apply clock (.roundToggle round) =
        ((store.collapse.toggle round).map fun result =>
          ({ store with collapse := result.1 }, result.2)).map fun result =>
            (result.1, none) := by
      simp only [apply]
      cases store.collapse.toggle round <;> rfl
    rw [hanswer]
    exact htoggle

/-- An interaction in place gives what `Store.handle` gives, and a refused one writes nothing. -/
theorem performs_handleInPlace (store : Store) (clock : Int) (event : Event) :
    (handleInPlace clock event).Performs store (store.handle clock event) := by
  have happly : (handleInPlace clock event).Performs store _ :=
    (performs_applyInPlace store clock event).andThen fun t sort => rfl
  have hanswer : store.handle clock event =
      (store.apply clock event).map fun result =>
        (result.1, { result.1.render with sort := result.2 }) := by
    unfold handle
    cases store.apply clock event <;> rfl
  rw [hanswer]
  exact happly

end Store

end Scoreboard
