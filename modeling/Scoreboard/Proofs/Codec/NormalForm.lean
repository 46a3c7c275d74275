import Scoreboard.Codec.Event
import Scoreboard.Proofs.Codec.Page

/-!
# Normal forms of written data

Data can be written in several ways: a record as an object or as a list, a round as a number or as a
text, a cell as a bare text. Writing what was read picks one of them, and reading that one again
changes nothing.

## Main definitions

- `Json.rewrite` — a value, read and written again
- `RoundTrips` — what is written is read back, and what is read has a normal form

## Main statements

- `Json.Canonical.normal_eq` — a canonical value is its own normal form
- `Page.faithful`, `Event.faithful` — whole pages and interactions are read back
- `data_roundTrips` — all data of pages and all interactions have normal forms
-/

namespace Scoreboard

namespace Json

/-- A canonical value is its own normal form. -/
theorem Canonical.normal_eq {depth : Nat} {json : Json} (h : Canonical depth json) :
    json.normal = json := by
  induction h with
  | null | bool | integer | text => rfl
  | @array depth items _ ih =>
    rw [normal, normalItems_eq_map, List.map_congr_left ih, List.map_id']
  | @object depth members ascending _ ih =>
    have hvalues : normalMembers members = members := by
      rw [normalMembers_eq_map, List.map_congr_left fun member hmember => by rw [ih member hmember],
        List.map_id']
    rw [normal, hvalues, ofMembers, SortedMap.entries_ofList_of_ascending ascending]

/-- The value, read as data and written again. -/
def rewrite {α : Type} (json : Json) (encode : α → Json) (decode : Json → Except DecodeError α) :
    Except DecodeError Json :=
  (decode json).map fun a => (encode a).normal

end Json

/-- What is written is read back. What is read is rewritten to a normal form, which is read as the
    same data and rewritten to itself. -/
structure RoundTrips {α : Type} (encode : α → Json) (decode : Json → Except DecodeError α) :
    Prop where
  decode_normal : ∀ a, decode (encode a).normal = .ok a
  normal_form : ∀ json a, decode json = .ok a → ∃ normal : Json,
    json.rewrite encode decode = .ok normal ∧ normal.normal = normal ∧
      decode normal = .ok a ∧ normal.rewrite encode decode = .ok normal

theorem Faithful.roundTrips {α : Type} {encode : α → Json} {decode : Json → Except DecodeError α}
    {level : Nat} (h : Faithful encode decode level) : RoundTrips encode decode where
  decode_normal := h.decode_normal
  normal_form json a hdecode := by
    refine ⟨(encode a).normal, ?_, (h.canonical a 0).normal_eq, h.decode_normal a, ?_⟩
    · rw [Json.rewrite, hdecode]
      rfl
    · rw [Json.rewrite, h.decode_normal]
      rfl

theorem Page.faithful : Faithful toJson ofJson 7 where
  decode_normal page := by
    have hmembers : page.toJson.normal = .object [
        ("elements", (Json.ofList Element.toJson page.elements).normal),
        ("tables", (Json.ofList Table.toJson page.tables).normal),
        ("title", .text page.title),
        ("year", (Json.ofOption .ofYear page.year).normal)] := by
      rw [toJson, Json.normal, Json.ofMembers_eq_foldl]
      cbv
    have helements := Element.faithful.list.decode_normal page.elements
    have htables := Table.faithful.list.decode_normal page.tables
    have hyear := Json.faithful_optionalYear.decode_normal page.year
    rw [hmembers]
    refine Shape.decode_members
      ⟨some page.title, some page.year, some page.tables, some page.elements⟩ ?_ rfl
    simp only [List.foldlM_cons, List.foldlM_nil, Parts.take, helements, htables, hyear]
    rfl
  canonical page depth := by
    refine Json.canonical_object ?_
    simp only [List.forall_mem_cons]
    exact ⟨.text _ _, Json.faithful_optionalYear.canonical page.year (depth + 6),
      Table.faithful.list.canonical page.tables depth,
      Element.faithful.list.canonical page.elements (depth + 4), List.forall_mem_nil _⟩

namespace Event

/-- An interaction is read by the kind that it names, wherever among its members it does. -/
theorem ofJson_object {members : List (String × Json)} {name : String} {kind : EventKind}
    (hmember : (Json.object members).member? "kind" = some (.text name))
    (hname : chooseFrom EventKind.choices name = .ok kind) :
    ofJson (.object members) = ofFields kind (.members members) := by
  rw [ofJson, hmember]
  show (chooseFrom EventKind.choices name).bind _ = _
  rw [hname]
  rfl

/-- An interaction with one field is read back if its field is. -/
theorem ofJson_single {α : Type} {encode : α → Json} {decode : Json → Except DecodeError α}
    {level : Nat} (h : Faithful encode decode level) {name field shapeName : String}
    {kind : EventKind} {make : α → Event} (hname : chooseFrom EventKind.choices name = .ok kind)
    (hfields : ofFields kind = ofSingle shapeName field decode make)
    (hfield : compare "kind" field = .lt) (a : α) :
    ofJson (Json.object [("kind", .text name), (field, encode a)]).normal = .ok (make a) := by
  have hmembers : (Json.object [("kind", .text name), (field, encode a)]).normal =
      .object [("kind", .text name), (field, (encode a).normal)] := by
    rw [Json.normal, Json.normalMembers_eq_map, Json.ofMembers,
      SortedMap.entries_ofList_of_ascending]
    · rfl
    · simpa [Ascending] using hfield
  have hother : "kind" ≠ field := by
    rintro rfl
    rw [Std.ReflOrd.compare_self] at hfield
    cases hfield
  rw [hmembers, ofJson_object rfl hname, hfields]
  refine Shape.decode_members (some a) ?_ rfl
  simp only [List.foldlM_cons, List.foldlM_nil, if_neg hother, h.decode_normal, if_true]
  rfl

theorem normal_headerClick (tableId : String) (column : UInt64) :
    (headerClick tableId column).toJson.normal = .object [
      ("column", .ofNat column.toNat),
      ("kind", .text "headerClick"),
      ("tableId", .text tableId)] := by
  rw [toJson, Json.normal, Json.ofMembers_eq_foldl]
  cbv

theorem toWhole_column (column : UInt64) :
    (Json.ofNat column.toNat).toWhole .size = .ok (column.toNat : Int) := by
  have hbound : (column.toNat : Int) < IntKind.size.bound := by
    have hlt := column.toNat_lt
    rw [IntKind.bound]
    omega
  have hholds : IntKind.size.holds column.toNat = true :=
    Bool.and_eq_true_iff.2 ⟨decide_eq_true (Int.natCast_nonneg _), decide_eq_true hbound⟩
  simp only [Json.ofNat, Json.toWhole, hholds, if_true]

theorem HeaderParts.take_column (parts : HeaderParts) {json : Json} {n : Int}
    (hwhole : json.toWhole .size = .ok n) :
    parts.take "column" json = .ok { parts with column := some (UInt64.ofNat n.toNat) } := by
  simp only [take, hwhole]
  rfl

theorem faithful : Faithful toJson ofJson 1 where
  decode_normal event := by
    cases event with
    | headerClick tableId column =>
      rw [normal_headerClick, ofJson_object rfl rfl]
      refine Shape.decode_members ⟨some tableId, some column⟩ ?_ rfl
      rw [List.foldlM_cons, HeaderParts.take_column _ (toWhole_column column), Int.toNat_natCast,
        UInt64.ofNat_toNat]
      rfl
    | participantClick participant =>
      exact ofJson_single ParticipantId.faithful rfl rfl (by decide) participant
    | participantReset => rfl
    | roundSelect round => exact ofJson_single RoundId.faithful rfl rfl (by decide) round
    | roundReset => rfl
    | roundToggle round => exact ofJson_single RoundId.faithful rfl rfl (by decide) round
  canonical event depth := by
    cases event <;> refine Json.canonical_object ?_ <;> simp only [List.forall_mem_cons]
    case headerClick tableId column =>
      have hbound := column.toNat_lt
      exact ⟨.text _ _, .text _ _, .integer _ (by simp only [Json.leastMagnitude]; omega)
        (by simp only [UInt64.size]; omega), List.forall_mem_nil _⟩
    case participantClick participant =>
      exact ⟨.text _ _, ParticipantId.faithful.canonical participant depth, List.forall_mem_nil _⟩
    case roundSelect round =>
      exact ⟨.text _ _, RoundId.faithful.canonical round depth, List.forall_mem_nil _⟩
    case roundToggle round =>
      exact ⟨.text _ _, RoundId.faithful.canonical round depth, List.forall_mem_nil _⟩
    all_goals exact ⟨.text _ _, List.forall_mem_nil _⟩

end Event

/-- Pages, their tables, rows, cells and elements, the data of row records and all interactions are
    read back from what they are written as. Whatever they are read from, it has a normal form that
    is read as the same data. -/
theorem data_roundTrips :
    RoundTrips Page.toJson Page.ofJson ∧ RoundTrips Table.toJson Table.ofJson ∧
      RoundTrips Row.toJson Row.ofJson ∧ RoundTrips Cell.toJson Cell.ofJson ∧
      RoundTrips Element.toJson Element.ofJson ∧ RoundTrips RowRecord.toJson RowRecord.ofJson ∧
      RoundTrips Event.toJson Event.ofJson :=
  ⟨Page.faithful.roundTrips, Table.faithful.roundTrips, Row.faithful.roundTrips,
    Cell.faithful.roundTrips, Element.faithful.roundTrips, RowRecord.faithful.roundTrips,
    Event.faithful.roundTrips⟩

/-- A row written as a list, with a round as a text and a bare cell, has a normal form that names
    everything. -/
example :
    (Json.array [.text "a", .text "ann", .text " +2 ", .array [.text "3"]]).rewrite
        Row.toJson Row.ofJson =
      .ok (.object [
        ("cells", .array [.object [("hideable", .bool false), ("player", .null), ("round", .null),
          ("text", .text "3")]]),
        ("id", .text "a"), ("player", .text "ann"), ("round", .integer 2)]) := by
  cbv

end Scoreboard
