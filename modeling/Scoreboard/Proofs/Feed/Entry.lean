import Mathlib.Data.List.Basic
import Scoreboard.Feed.Reading

/-!
# What lines describe

Whether a line describes something, and what, is told from the line alone, but for one thing: ahead
of the first page record nothing else counts. So to read lines is to add up what they describe.

## Main definitions

- `Entry`, `Entry.ofLine?` — what a line describes, if it does
- `Feed.entries` — what the lines of a feed describe from the first page record on
- `Draft.add` — the draft with what one more line describes

## Main statements

- `Feed.readLines_eq_foldl` — reading lines adds up what they describe
-/

namespace Scoreboard

/-- What a line of a feed describes. -/
inductive Entry where
  | page (info : PageInfo)
  | table (table : Table)
  | row (record : RowRecord)
  | element (element : Element)
  deriving DecidableEq

namespace Entry

/-- What a record describes, if it has data and they fit its kind. -/
def ofRecord? (record : Record) : Option Entry :=
  match record.data with
  | none => none
  | some data =>
    match record.kind with
    | .page => (PageInfo.ofJson data).toOption.map page
    | .table => (Table.ofJson data).toOption.map table
    | .row => (RowRecord.ofJson data).toOption.map row
    | .element => (Element.ofJson data).toOption.map element

/-- What a line describes, if it is not blank and has a record. -/
def ofLine? (line : String) : Option Entry :=
  if Text.isBlankLine line then none else (Record.read line).toOption.bind ofRecord?

end Entry

/-- The page data, if the entry is of that kind. -/
def Entry.page? : Entry → Option PageInfo
  | .page found => some found
  | _ => none

/-- The table, if the entry is of that kind. -/
def Entry.table? : Entry → Option Table
  | .table found => some found
  | _ => none

/-- The element, if the entry is of that kind. -/
def Entry.element? : Entry → Option Element
  | .element found => some found
  | _ => none

/-- The row, if the entry is one for the table. -/
def Entry.rowFor? (tableId : String) : Entry → Option Row
  | .row record => if record.tableId = tableId then some record.row else none
  | _ => none

namespace Draft

/-- The draft with what one more line describes. -/
def add (draft : Draft) (line : Nat) : Entry → Draft
  | .page info => { draft with info := some info }
  | .table table => draft.putTable line table
  | .row record => draft.putRow line record
  | .element element => draft.putElement line element

/-- The draft after one more line: without page data, nothing else counts. -/
def addIfPaged (draft : Draft) (line : Nat) (entry : Entry) : Draft :=
  if draft.info.isNone ∧ entry.page?.isNone then draft else draft.add line entry

variable {draft : Draft}

@[simp] theorem warnIf_info (cause : Bool) (warning : Warning) :
    (draft.warnIf cause warning).info = draft.info := by
  unfold warnIf
  split <;> rfl

theorem isSome_info_add (h : draft.info.isSome = true) (line : Nat) (entry : Entry) :
    (draft.add line entry).info.isSome = true := by
  cases entry with
  | page info => rfl
  | table table =>
    show (draft.putTable line table).info.isSome = true
    rwa [putTable, warnIf_info]
  | element element =>
    show (draft.putElement line element).info.isSome = true
    rwa [putElement, warnIf_info]
  | row record =>
    show (draft.putRow line record).info.isSome = true
    unfold putRow
    split
    · rwa [warnIf_info]
    · rwa [warnIf_info]

theorem addIfPaged_page (line : Nat) (info : PageInfo) :
    draft.addIfPaged line (.page info) = { draft with info := some info } := by
  simp [addIfPaged, add, Entry.page?]

theorem addIfPaged_of_page? {entry : Entry} (h : entry.page? = none) (line : Nat) :
    draft.addIfPaged line entry = if draft.info.isNone then draft else draft.add line entry := by
  simp [addIfPaged, h]

section

variable {α : Type} (line : Nat) (kind : RecordKind) (data : Json)
  (decode : Json → Except DecodeError α) {next : α → Draft} {entry : α → Entry}

/-- Data that fit their kind are added, and other data count for nothing. -/
theorem decodeData_toOption (h : ∀ a, next a = draft.addIfPaged line (entry a)) :
    (decodeData line kind data decode >>= fun a => pure (next a)).toOption.getD draft =
      ((decode data).toOption.map entry).elim draft (draft.addIfPaged line) := by
  unfold decodeData
  cases decode data with
  | error error => rfl
  | ok a => exact h a

theorem guarded_toOption (hpage : ∀ a, (entry a).page? = none)
    (h : ∀ a, next a = draft.add line (entry a)) :
    (if draft.info.isNone then .error .noPage
      else decodeData line kind data decode >>= fun a => pure (next a)).toOption.getD draft =
      ((decode data).toOption.map entry).elim draft (draft.addIfPaged line) := by
  split
  · next hnone =>
    cases decode data with
    | error error => rfl
    | ok a => exact ((addIfPaged_of_page? (hpage a) line).trans (if_pos hnone)).symm
  · next hsome =>
    refine decodeData_toOption line kind data decode fun a => ?_
    rw [h a, addIfPaged_of_page? (hpage a), if_neg hsome]

end

/-- A record counts for what it describes; if it is refused it counts for nothing. -/
theorem take_toOption (draft : Draft) (line : Nat) (record : Record) :
    (draft.take line record).toOption.getD draft =
      (Entry.ofRecord? record).elim draft (draft.addIfPaged line) := by
  unfold take Entry.ofRecord?
  cases record.data with
  | none => rfl
  | some data =>
    cases record.kind with
    | page =>
      exact decodeData_toOption line .page data _ fun info => (addIfPaged_page line info).symm
    | table => exact guarded_toOption line .table data _ (fun _ => rfl) fun _ => rfl
    | row => exact guarded_toOption line .row data _ (fun _ => rfl) fun _ => rfl
    | element => exact guarded_toOption line .element data _ (fun _ => rfl) fun _ => rfl

theorem foldl_addIfPaged_of_isSome (h : draft.info.isSome = true) (entries : List (Nat × Entry)) :
    entries.foldl (fun draft entry => draft.addIfPaged entry.1 entry.2) draft =
      entries.foldl (fun draft entry => draft.add entry.1 entry.2) draft := by
  induction entries generalizing draft with
  | nil => rfl
  | cons entry rest ih =>
    have hadd : draft.addIfPaged entry.1 entry.2 = draft.add entry.1 entry.2 := by
      rw [addIfPaged, if_neg]
      simp [Option.isNone_eq_false_iff.2 h]
    rw [List.foldl_cons, List.foldl_cons, hadd]
    exact ih (isSome_info_add h entry.1 entry.2)

/-- Without page data, what comes ahead of the first page record counts for nothing. -/
theorem foldl_addIfPaged (h : draft.info = none) (entries : List (Nat × Entry)) :
    entries.foldl (fun draft entry => draft.addIfPaged entry.1 entry.2) draft =
      (entries.dropWhile fun entry => entry.2.page?.isNone).foldl
        (fun draft entry => draft.add entry.1 entry.2) draft := by
  induction entries with
  | nil => rfl
  | cons entry rest ih =>
    rw [List.foldl_cons, List.dropWhile_cons]
    split
    · next hpage =>
      rw [addIfPaged, if_pos ⟨by rw [h]; rfl, hpage⟩]
      exact ih
    · next hpage =>
      have hadd : draft.addIfPaged entry.1 entry.2 = draft.add entry.1 entry.2 := by
        rw [addIfPaged, if_neg fun hc => hpage hc.2]
      obtain ⟨info, hinfo⟩ := Option.ne_none_iff_exists'.1 (mt Option.isNone_iff_eq_none.2 hpage)
      have hsome : (draft.add entry.1 entry.2).info.isSome = true := by
        cases hentry : entry.2 with
        | page info => rfl
        | _ => rw [hentry] at hinfo; cases hinfo
      rw [hadd, List.foldl_cons]
      exact foldl_addIfPaged_of_isSome hsome rest

end Draft

namespace Feed

/-- What lines describe, with their numbers, where the first one has the number `first`. -/
def described (first : Nat) : List String → List (Nat × Entry)
  | [] => []
  | line :: rest =>
    ((Entry.ofLine? line).map fun entry => (first, entry)).toList ++ described (first + 1) rest

/-- What the lines of a feed describe, with their numbers, from the first page record on. -/
def entries (lines : List String) : List (Nat × Entry) :=
  (described 1 lines).dropWhile fun entry => entry.2.page?.isNone

variable {every : Nat} {reading : Reading}

theorem takeLine_toOption (draft : Draft) (number : Nat) (line : String) :
    (takeLine draft number line).toOption.getD draft =
      (Entry.ofLine? line).elim draft (draft.addIfPaged number) := by
  unfold takeLine Entry.ofLine?
  split
  · rfl
  · cases Record.read line with
    | error fault => rfl
    | ok record =>
      dsimp only
      have htake := draft.take_toOption number record
      cases hrecord : draft.take number record with
      | error error =>
        rw [hrecord] at htake
        exact htake
      | ok draft' =>
        rw [hrecord] at htake
        exact htake

theorem readLine_fst (every : Nat) (reading : Reading) (line : String) :
    (readLine every reading line).1.lines = reading.lines + 1 ∧
      (readLine every reading line).1.draft =
        (Entry.ofLine? line).elim reading.draft
          (reading.draft.addIfPaged (reading.lines + 1)) := by
  rw [← takeLine_toOption]
  unfold readLine
  dsimp only
  cases takeLine reading.draft (reading.lines + 1) line with
  | error error => exact ⟨rfl, rfl⟩
  | ok draft => exact ⟨rfl, rfl⟩

/-- Reading lines that are text ends well, and adds up what they describe. -/
theorem readLines_described (every : Nat) (reading : Reading) (lines : List String) :
    ∃ reading', (readLines every reading (lines.map some)).1 = .ok reading' ∧
      reading'.draft = (described (reading.lines + 1) lines).foldl
        (fun draft entry => draft.addIfPaged entry.1 entry.2) reading.draft := by
  induction lines generalizing reading with
  | nil => exact ⟨reading, rfl, rfl⟩
  | cons line rest ih =>
    obtain ⟨hlines, hdraft⟩ := readLine_fst every reading line
    obtain ⟨reading', hread, hrest⟩ := ih (readLine every reading line).1
    refine ⟨reading', hread, ?_⟩
    rw [hrest, hlines, hdraft, described, List.foldl_append]
    cases Entry.ofLine? line <;> rfl

/-- A feed whose lines are text is read to its end, and adds up to what its lines describe. -/
theorem readLines_eq_foldl (every : Nat) (lines : List String) :
    ∃ reading, (readLines every {} (lines.map some)).1 = .ok reading ∧
      reading.draft =
        (entries lines).foldl (fun draft entry => draft.add entry.1 entry.2) {} := by
  obtain ⟨reading, hread, hdraft⟩ := readLines_described every {} lines
  exact ⟨reading, hread, hdraft.trans (Draft.foldl_addIfPaged rfl _)⟩

end Feed

end Scoreboard
