import Scoreboard.Proofs.Feed.Entry
import Scoreboard.Proofs.Feed.Events

/-!
# Refused lines

A line that is refused leaves no trace but the report of it. So a feed reads as if all its refused
lines were empty. That is more than it seems, since records can be taken in place, one write after
the other: each is looked through before anything is written.

## Main definitions

- `Draft.takeInPlace` — a record taken in place
- `Feed.takeLineInPlace` — a line taken in place
- `Feed.refusedLines` — the lines that a reader is told are refused
- `Feed.blankAt` — lines with some of them made empty

## Main statements

- `Feed.run_takeLineInPlace` — a line taken in place is all or nothing
- `Feed.read_blankAt` — a feed with its refused lines made empty
-/

namespace Scoreboard

namespace Draft

/-- A program that changes a draft in place. If it refuses a record halfway, what it has written by
    then stays. -/
abbrev InPlace (α : Type) :=
  ExceptT RecordError (StateM Draft) α

/-- The answer of a program, and what it leaves. -/
def InPlace.outcome {α : Type} (program : InPlace α) (draft : Draft) :
    Except RecordError α × Draft :=
  program.run.run draft

/-- The answer that all or nothing is done, and what that leaves. -/
def allOrNothing {ε : Type} (draft : Draft) : Except ε Draft → Except ε Unit × Draft
  | .ok draft' => (.ok (), draft')
  | .error error => (.error error, draft)

/-- One more warning in place, if there is cause for it. -/
def warnInPlace (cause : Bool) (warning : Warning) : InPlace Unit := do
  if cause then
    modify fun draft => { draft with warnings := draft.warnings ++ [warning] }

/-- One more table in place. -/
def putTableInPlace (line : Nat) (table : Table) : InPlace Unit := do
  let again := ((← get).tables.put table.id table).2
  modify fun draft => { draft with tables := (draft.tables.put table.id table).1 }
  warnInPlace again (.tableAgain line table.id)

/-- One more element in place. -/
def putElementInPlace (line : Nat) (element : Element) : InPlace Unit := do
  let again := ((← get).elements.put element.id element).2
  modify fun draft => { draft with elements := (draft.elements.put element.id element).1 }
  warnInPlace again (.elementAgain line element.id)

/-- One more row in place. The warning comes ahead of the row. -/
def putRowInPlace (line : Nat) (record : RowRecord) : InPlace Unit := do
  match (← get).tables.find? record.tableId with
  | none => warnInPlace true (.rowDropped line record.row.id record.tableId)
  | some place =>
    let again := (← get).tables.items[place]?.any fun table => (table.putRow record.row).2
    warnInPlace again (.rowReplaced line record.row.id record.tableId)
    modify fun draft =>
      { draft with tables := draft.tables.modify place fun table => (table.putRow record.row).1 }

/-- The data of a record as data of its kind, or the record is refused. -/
def dataInPlace {α : Type} (line : Nat) (kind : RecordKind) (data : Json)
    (decode : Json → Except DecodeError α) : InPlace α :=
  ExceptT.mk (pure (decodeData line kind data decode))

/-- One more record in place. -/
def takeInPlace (line : Nat) (record : Record) : InPlace Unit := do
  match record.data with
  | none => return ()
  | some data =>
    if record.kind ≠ .page ∧ (← get).info.isNone then
      throw .noPage
    else
      match record.kind with
      | .page =>
        let info ← dataInPlace line .page data PageInfo.ofJson
        modify fun draft => { draft with info := some info }
      | .table => putTableInPlace line (← dataInPlace line .table data Table.ofJson)
      | .row => putRowInPlace line (← dataInPlace line .row data RowRecord.ofJson)
      | .element => putElementInPlace line (← dataInPlace line .element data Element.ofJson)

section

variable {α β : Type} (draft : Draft) (line : Nat)

@[simp] theorem outcome_throw (error : RecordError) :
    InPlace.outcome (throw error : InPlace α) draft = (.error error, draft) :=
  rfl

@[simp] theorem outcome_get : InPlace.outcome get draft = (.ok draft, draft) :=
  rfl

@[simp] theorem outcome_modify (change : Draft → Draft) :
    InPlace.outcome (modify change) draft = (.ok (), change draft) :=
  rfl

@[simp] theorem outcome_bind (program : InPlace α) (next : α → InPlace β) :
    InPlace.outcome (program >>= next) draft =
      match program.outcome draft with
      | (.ok a, draft') => (next a).outcome draft'
      | (.error error, draft') => (.error error, draft') := by
  show StateT.run (ExceptT.run program >>= ExceptT.bindCont next) draft = _
  rw [StateT.run_bind]
  show (match program.outcome draft with
    | (answer, draft') => StateT.run (ExceptT.bindCont next answer) draft') = _
  cases program.outcome draft with
  | mk answer draft' => cases answer <;> rfl

@[simp] theorem outcome_dataInPlace (kind : RecordKind) (data : Json)
    (decode : Json → Except DecodeError α) :
    (dataInPlace line kind data decode).outcome draft =
      (decodeData line kind data decode, draft) :=
  rfl

@[simp] theorem outcome_warnInPlace (cause : Bool) (warning : Warning) :
    (warnInPlace cause warning).outcome draft = (.ok (), draft.warnIf cause warning) := by
  cases cause <;> rfl

@[simp] theorem outcome_putTableInPlace (table : Table) :
    (putTableInPlace line table).outcome draft = (.ok (), draft.putTable line table) := by
  simp [putTableInPlace, putTable]

@[simp] theorem outcome_putElementInPlace (element : Element) :
    (putElementInPlace line element).outcome draft = (.ok (), draft.putElement line element) := by
  simp [putElementInPlace, putElement]

@[simp] theorem outcome_putRowInPlace (record : RowRecord) :
    (putRowInPlace line record).outcome draft = (.ok (), draft.putRow line record) := by
  unfold putRowInPlace putRow
  cases hplace : draft.tables.find? record.tableId with
  | none => simp [hplace]
  | some place =>
    -- The warning is written first in place, and last otherwise.
    simp only [outcome_bind, outcome_get, outcome_warnInPlace, outcome_modify, hplace]
    unfold warnIf
    split <;> rfl

/-- Nothing is written before the data are looked into. -/
theorem outcome_data_bind (kind : RecordKind) (data : Json)
    (decode : Json → Except DecodeError α) {next : α → InPlace Unit} {put : α → Draft}
    (hput : ∀ a, (next a).outcome draft = (.ok (), put a)) :
    InPlace.outcome (do next (← dataInPlace line kind data decode)) draft =
      draft.allOrNothing (do return put (← decodeData line kind data decode)) := by
  rw [outcome_bind, outcome_dataInPlace]
  cases decodeData line kind data decode with
  | ok a => exact hput a
  | error error => rfl

theorem outcome_guarded {kind : RecordKind} (hkind : kind ≠ .page) {program : InPlace Unit}
    {answer : Except RecordError Draft}
    (h : program.outcome draft = draft.allOrNothing answer) :
    InPlace.outcome (do
        if kind ≠ .page ∧ (← get).info.isNone then throw .noPage else program) draft =
      draft.allOrNothing (if draft.info.isNone then .error .noPage else answer) := by
  rw [outcome_bind, outcome_get]
  by_cases hnone : draft.info.isNone = true
  · simp [hkind, hnone, allOrNothing]
  · simp [hnone, h]

/-- A record taken in place is all or nothing. -/
theorem outcome_takeInPlace (record : Record) :
    (takeInPlace line record).outcome draft = draft.allOrNothing (draft.take line record) := by
  unfold takeInPlace take
  cases record.data with
  | none => rfl
  | some data =>
    cases record.kind with
    | page => exact outcome_data_bind draft line .page data _ fun info => rfl
    | table =>
      exact outcome_guarded draft (show RecordKind.table ≠ .page by decide)
        (outcome_data_bind draft line .table data _ (outcome_putTableInPlace draft line))
    | row =>
      exact outcome_guarded draft (show RecordKind.row ≠ .page by decide)
        (outcome_data_bind draft line .row data _ (outcome_putRowInPlace draft line))
    | element =>
      exact outcome_guarded draft (show RecordKind.element ≠ .page by decide)
        (outcome_data_bind draft line .element data _ (outcome_putElementInPlace draft line))

end

end Draft

namespace Feed

/-- One more line in place. -/
def takeLineInPlace (number : Nat) (line : String) : ExceptT LineError (StateM Draft) Unit :=
  if Text.isBlankLine line then pure ()
  else
    match Record.read line with
    | .error fault => throw (.fault fault)
    | .ok record => (Draft.takeInPlace number record).adapt .record

/-- A line taken in place is all or nothing. -/
theorem run_takeLineInPlace (draft : Draft) (number : Nat) (line : String) :
    (takeLineInPlace number line).run.run draft =
      draft.allOrNothing (takeLine draft number line) := by
  unfold takeLineInPlace takeLine
  split
  · rfl
  · cases Record.read line with
    | error fault => rfl
    | ok record =>
      have hrecord := Draft.outcome_takeInPlace draft number record
      show ((Draft.takeInPlace number record).adapt LineError.record).run.run draft = _
      have hadapt : ((Draft.takeInPlace number record).adapt LineError.record).run.run draft =
          (((Draft.takeInPlace number record).outcome draft).1.mapError LineError.record,
            ((Draft.takeInPlace number record).outcome draft).2) :=
        rfl
      rw [hadapt, hrecord]
      dsimp only
      cases draft.take number record <;> rfl

/-- The numbers of the lines that are told to be refused. -/
def refusedLines (events : List FeedEvent) : List Nat :=
  events.filterMap FeedEvent.refused?

/-- The lines with those of some numbers made empty, where the first one has the number `first`. -/
def blankAt (numbers : List Nat) : Nat → List (Option String) → List (Option String)
  | _, [] => []
  | first, line :: rest =>
    (if first ∈ numbers then some "" else line) :: blankAt numbers (first + 1) rest

theorem blankAt_congr {numbers numbers' : List Nat} {first : Nat}
    (h : ∀ number, first ≤ number → (number ∈ numbers ↔ number ∈ numbers'))
    (lines : List (Option String)) :
    blankAt numbers first lines = blankAt numbers' first lines := by
  induction lines generalizing first with
  | nil => rfl
  | cons line rest ih =>
    have hrest := ih fun number hle => h number (Nat.le_of_succ_le hle)
    simp [blankAt, h first (Nat.le_refl first), hrest]

variable {every : Nat} {reading : Reading}

theorem refusedLines_append (events later : List FeedEvent) :
    refusedLines (events ++ later) = refusedLines events ++ refusedLines later :=
  List.filterMap_append

theorem refusedLines_toldAfter (every number : Nat) :
    refusedLines (toldAfter every number) = [] := by
  unfold toldAfter
  split <;> rfl

theorem filter_toldAfter (every number : Nat) :
    (toldAfter every number).filter (fun event => event.refused?.isNone) =
      toldAfter every number := by
  unfold toldAfter
  split <;> rfl

section

variable {line : String}

/-- A line that is made empty if it is refused reads as the line itself, but for the report. -/
theorem readLine_blanked (every : Nat) (reading : Reading) (errors : Nat) (line : String) :
    readLine every { reading with errors }
        (if reading.lines + 1 ∈ refusedLines (readLine every reading line).2 then "" else line) =
      ({ (readLine every reading line).1 with errors },
        (readLine every reading line).2.filter fun event => event.refused?.isNone) := by
  cases htake : takeLine reading.draft (reading.lines + 1) line with
  | ok draft =>
    have hblanked : takeLine { reading with errors }.draft (reading.lines + 1) line = .ok draft :=
      htake
    rw [readLine_of_ok htake, refusedLines_toldAfter, if_neg List.not_mem_nil,
      readLine_of_ok hblanked, filter_toldAfter]
  | error error =>
    -- An empty line changes the draft as little as a refused one.
    have hblanked : takeLine { reading with errors }.draft (reading.lines + 1) "" =
        .ok reading.draft := rfl
    have hrefused : reading.lines + 1 ∈ refusedLines (readLine every reading line).2 := by
      rw [readLine_of_error htake]
      exact List.mem_cons_self
    rw [if_pos hrefused, readLine_of_ok hblanked, readLine_of_error htake,
      List.filter_cons_of_neg (by simp [FeedEvent.refused?]), filter_toldAfter]

end

theorem eq_of_mem_refusedLines {line : String} {number : Nat}
    (h : number ∈ refusedLines (readLine every reading line).2) : number = reading.lines + 1 := by
  obtain ⟨event, hevent, hnumber⟩ := List.mem_filterMap.1 h
  rcases refused?_of_mem_readLine hevent with hself | rfl
  · rw [hself, Option.some_inj] at hnumber
    exact hnumber.symm
  · cases hnumber

theorem lt_of_mem_refusedLines {lines : List (Option String)} {number : Nat}
    (h : number ∈ refusedLines (readLines every reading lines).2) : reading.lines < number := by
  induction lines generalizing reading with
  | nil => cases h
  | cons line rest ih =>
    cases line with
    | none => cases h
    | some line =>
      rw [readLines, refusedLines_append, List.mem_append] at h
      rcases h with hnow | hlater
      · rw [eq_of_mem_refusedLines hnow]
        omega
      · have hlt := ih hlater
        rw [(readLine_fst every reading line).1] at hlt
        omega

/-- Every line is made empty or kept for what is told of it alone, since lines have numbers of their
    own. -/
theorem blankAt_readLines (every : Nat) (reading : Reading) (line : String)
    (rest : List (Option String)) :
    let now := readLine every reading line
    let later := (readLines every now.1 rest).2
    blankAt (refusedLines (now.2 ++ later)) (reading.lines + 1) (some line :: rest) =
      some (if reading.lines + 1 ∈ refusedLines now.2 then "" else line) ::
        blankAt (refusedLines later) (now.1.lines + 1) rest := by
  intro now later
  have hlines : now.1.lines = reading.lines + 1 := (readLine_fst every reading line).1
  have hfirst : reading.lines + 1 ∉ refusedLines later := fun hmem => by
    have hlt := lt_of_mem_refusedLines hmem
    omega
  have hnow : ∀ number, now.1.lines + 1 ≤ number → number ∉ refusedLines now.2 :=
    fun number hle hmem => by
      have heq := eq_of_mem_refusedLines hmem
      omega
  rw [refusedLines_append, blankAt, ← hlines]
  refine congrArg₂ List.cons ?_ (blankAt_congr (fun number hle => ?_) rest)
  · simp only [hlines, List.mem_append, hfirst, or_false]
    split <;> rfl
  · rw [List.mem_append, or_iff_right (hnow number hle)]

theorem readLines_blankAt (every : Nat) (reading : Reading) (errors : Nat)
    (lines : List (Option String)) :
    readLines every { reading with errors }
        (blankAt (refusedLines (readLines every reading lines).2) (reading.lines + 1) lines) =
      ((readLines every reading lines).1.map fun reading => { reading with errors },
        (readLines every reading lines).2.filter fun event => event.refused?.isNone) := by
  induction lines generalizing reading with
  | nil => rfl
  | cons line rest ih =>
    cases line with
    | none => rfl
    | some line =>
      have hrest := ih (readLine every reading line).1
      rw [readLines, blankAt_readLines, readLines, readLine_blanked]
      dsimp only
      rw [hrest, List.filter_append]

/-- A feed with its refused lines made empty reads as before, but for the reports of these lines: it
    comes to the same page and warnings or fails for the same reason, and the same progress is told.
    Even in place a refused line does no more than an empty one. -/
theorem read_blankAt (every : Nat) (lines : List (Option String)) :
    let told := (read every lines).2
    let blanked := blankAt (refusedLines told) 1 lines
    (read every blanked).1 =
        (read every lines).1.map (fun outcome => { outcome with errors := 0 }) ∧
      (read every blanked).2 = told.filter (fun event => event.refused?.isNone) ∧
      (∀ event ∈ (read every blanked).2, ∃ number, event = .progress number) ∧
      ∀ draft number line, (takeLineInPlace number line).run.run draft =
        draft.allOrNothing (takeLine draft number line) := by
  intro told blanked
  have hread : readLines every {} blanked = _ := readLines_blankAt every {} 0 lines
  have htold : (read every blanked).2 = told.filter fun event => event.refused?.isNone :=
    congrArg Prod.snd hread
  refine ⟨?_, htold, ?_, run_takeLineInPlace⟩
  · show (readLines every {} blanked).1.bind finish =
      ((readLines every {} lines).1.bind finish).map _
    rw [hread]
    cases (readLines every {} lines).1 with
    | error failure => rfl
    | ok reading =>
      show finish { reading with errors := 0 } = (finish reading).map _
      unfold finish
      dsimp only
      split
      · rfl
      · split <;> rfl
  · intro event hevent
    rw [htold, List.mem_filter] at hevent
    rcases refused?_of_mem_readLines hevent.1 with ⟨number, hrefused⟩ | hprogress
    · have hnone := hevent.2
      rw [hrefused] at hnone
      cases hnone
    · exact hprogress

end Feed

end Scoreboard
