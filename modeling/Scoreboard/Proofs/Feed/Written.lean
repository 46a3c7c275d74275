import Scoreboard.Proofs.Codec.Page
import Scoreboard.Proofs.Feed.Entry
import Scoreboard.Proofs.Json.Written

/-!
# What is written on a line

An entry of a feed is written on a line as a record of its kind. The line is read as the record, and
the data of the record as the entry.

## Main definitions

- `Entry.record`, `Entry.line` — the record of an entry, and the line it is written on

## Main statements

- `Record.read_line` — a line is read as the record that was written
- `Draft.take_record` — the record of an entry counts for the entry
- `Feed.takeLine_line` — so does the line
-/

namespace Scoreboard

namespace RecordKind

theorem chooseFrom_name (kind : RecordKind) : chooseFrom choices kind.name = .ok kind := by
  cases kind <;> rfl

end RecordKind

namespace Record

open Json

section

variable {steps : Nat} {first : Bool} {parts : Parts} {cs cs' rest : List Char}

theorem readKind_printed (kind : RecordKind) (rest : List Char) :
    readKind ('"' :: (kind.name.toList.flatMap escaped ++ '"' :: rest)) = .ok (kind, rest) := by
  have hskip (cs : List Char) : skipSpace ('"' :: cs) = '"' :: cs := skipSpace_cons rfl cs
  have hname : readKindName ('"' :: (kind.name.toList.flatMap escaped ++ '"' :: rest)) =
      .ok (kind, rest) := by
    unfold readKindName
    rw [hskip]
    simp [readText_printed, chooseKind, RecordKind.chooseFrom_name, lift, bind, Except.bind, pure,
      Except.pure]
  unfold readKind
  rw [hskip]
  exact hname

theorem readData_printed {data : Json} (h : Canonical dataDepth data) (hnull : data ≠ .null)
    (hends : Ends rest) : readData (data.print.toList ++ rest) = .ok (some data, rest) := by
  unfold readData
  rw [h.readsBack.reads rest hends]
  cases data with
  | null => exact absurd rfl hnull
  | _ => rfl

theorem readFields_end : readFields (steps + 1) first parts ('\x7d' :: rest) = .ok (parts, rest) :=
  rfl

theorem readFields_type (hnext : nextName first cs = .ok (some "type", ':' :: cs'))
    (hnew : parts.kind = none) {kind : RecordKind} (hkind : readKind cs' = .ok (kind, rest)) :
    readFields (steps + 1) first parts cs =
      readFields steps false { parts with kind := some kind } rest := by
  have hcolon : readColon (':' :: cs') = .ok cs' := rfl
  rw [readFields, hnext]
  simp [lift, bind, Except.bind, hnew, hcolon, hkind]

theorem readFields_data (hnext : nextName first cs = .ok (some "data", ':' :: cs'))
    (hnew : parts.data = none) {data : Option Json} (hdata : readData cs' = .ok (data, rest)) :
    readFields (steps + 1) first parts cs =
      readFields steps false { parts with data := some data } rest := by
  have hcolon : readColon (':' :: cs') = .ok cs' := rfl
  rw [readFields, hnext]
  simp [lift, bind, Except.bind, hnew, hcolon, hdata]

end

theorem readFront_object (cs : List Char) :
    readFront ('\x7b' :: cs) =
      (readFields (cs.length + 1) true {} cs).bind (finishRead .members) :=
  rfl

/-- A line is read as the record that was written on it. -/
theorem read_print {data : Json} (h : Canonical dataDepth data) (hnull : data ≠ .null)
    (kind : RecordKind) :
    read (Record.toJson ⟨kind, some data⟩).print = .ok ⟨kind, some data⟩ := by
  let afterKind := ',' :: '"' :: ("data".toList.flatMap escaped ++ '"' :: ':' ::
    (data.print.toList ++ ['\x7d']))
  let members := '"' :: ("type".toList.flatMap escaped ++ '"' :: ':' ::
    '"' :: (kind.name.toList.flatMap escaped ++ '"' :: afterKind))
  have htext : (Record.toJson ⟨kind, some data⟩).print.toList = '\x7b' :: members := by
    rw [Record.toJson, toList_print_object]
    simp [members, afterKind, separated, memberText, RecordKind.toJson, Json.print,
      toList_printText, Json.ofOption]
  have hends : Ends ['\x7d'] := ends_cons (.inr (.inr rfl)) []
  have hfields (steps : Nat) : readFields (steps + 3) true {} members =
      .ok (⟨some kind, some (some data)⟩, []) := by
    rw [readFields_type (nextName_first _ "type") rfl (readKind_printed kind afterKind),
      readFields_data (nextName_comma _ "data") rfl (readData_printed h hnull hends),
      readFields_end]
  have hsteps : members.length + 1 = members.length - 2 + 3 := by
    simp only [members, List.length_cons, List.length_append]
    omega
  unfold read
  rw [htext, readFront_object, hsteps, hfields]
  rfl

end Record

namespace Entry

/-- The kind of the record that an entry is written as. -/
def kind : Entry → RecordKind
  | .page _ => .page
  | .table _ => .table
  | .row _ => .row
  | .element _ => .element

/-- The value of an entry. -/
def toJson : Entry → Json
  | .page found => found.toJson
  | .table found => found.toJson
  | .row found => found.toJson
  | .element found => found.toJson

/-- The record of an entry. Its data have the members of all objects in ascending order. -/
def record (entry : Entry) : Record :=
  ⟨entry.kind, some entry.toJson.normal⟩

/-- The line that an entry is written on. -/
def line (entry : Entry) : String :=
  entry.record.toJson.print

theorem canonical_toJson (entry : Entry) :
    Json.Canonical Record.dataDepth entry.toJson.normal := by
  cases entry with
  | page found => exact PageInfo.faithful.canonical found 125
  | table found => exact Table.faithful.canonical found 121
  | row found => exact RowRecord.faithful.canonical found 123
  | element found => exact Element.faithful.canonical found 125

theorem normal_toJson_ne_null (entry : Entry) : entry.toJson.normal ≠ .null := by
  have hobject (members : List (String × Json)) : (Json.object members).normal ≠ .null := by
    rw [Json.normal, Json.ofMembers]
    exact Json.noConfusion
  cases entry <;> exact hobject _

theorem read_line (entry : Entry) : Record.read entry.line = .ok entry.record :=
  Record.read_print entry.canonical_toJson entry.normal_toJson_ne_null entry.kind

/-- An entry is written on one line. -/
theorem visible_line (entry : Entry) : Json.Visible entry.line.toList := by
  refine Json.visible_print_object ?_
  simp only [List.forall_mem_cons]
  exact ⟨(Json.Canonical.text 0 entry.kind.name).visible_print,
    entry.canonical_toJson.visible_print, List.forall_mem_nil _⟩

theorem isBlankLine_line (entry : Entry) : Text.isBlankLine entry.line = false := by
  unfold Text.isBlankLine line Record.toJson
  rw [Json.toList_print_object]
  rfl

end Entry

namespace Draft

variable {draft : Draft}

theorem decodeData_of_ok {α : Type} {decode : Json → Except DecodeError α} {data : Json} {a : α}
    (h : decode data = .ok a) (line : Nat) (kind : RecordKind) :
    decodeData line kind data decode = .ok a := by
  rw [decodeData, h]

/-- The record of an entry counts for the entry, if it is not ahead of the page record. -/
theorem take_record {entry : Entry} (h : draft.info.isSome = true ∨ entry.page?.isSome = true)
    (line : Nat) : draft.take line entry.record = .ok (draft.add line entry) := by
  have hsome (hpage : entry.page? = none) : ¬draft.info.isNone = true := by
    simpa [hpage, ← Option.isSome_iff_ne_none] using h
  cases entry with
  | page found =>
    have hdata := decodeData_of_ok (PageInfo.faithful.decode_normal found) line .page
    show (do return { draft with info := some (← decodeData line .page _ PageInfo.ofJson) }) = _
    exact congrArg (· >>= _) hdata
  | table found =>
    have hdata := decodeData_of_ok (Table.faithful.decode_normal found) line .table
    exact (if_neg (hsome rfl)).trans (congrArg (· >>= _) hdata)
  | row found =>
    have hdata := decodeData_of_ok (RowRecord.faithful.decode_normal found) line .row
    exact (if_neg (hsome rfl)).trans (congrArg (· >>= _) hdata)
  | element found =>
    have hdata := decodeData_of_ok (Element.faithful.decode_normal found) line .element
    exact (if_neg (hsome rfl)).trans (congrArg (· >>= _) hdata)

end Draft

namespace Feed

/-- The line of an entry counts for the entry, if it is not ahead of the page record. -/
theorem takeLine_line {draft : Draft} {entry : Entry}
    (h : draft.info.isSome = true ∨ entry.page?.isSome = true) (number : Nat) :
    takeLine draft number entry.line = .ok (draft.add number entry) := by
  unfold takeLine
  rw [entry.isBlankLine_line, if_neg Bool.false_ne_true, entry.read_line]
  dsimp only
  rw [Draft.take_record h]

end Feed

end Scoreboard
