import Mathlib.Data.List.Basic
import Scoreboard.Codec.Page
import Scoreboard.Feed.Record
import Scoreboard.Proofs.Json.Canonical

/-!
# Parts of pages as values

What is written as a value is read back from it, with the members of its objects in ascending order.
The value is canonical and of a depth that does not depend on what was written.

## Main definitions

- `Faithful` — data are read back from the values they are written as

## Main statements

- `Faithful.list`, `Faithful.option` — lists of such data, and such data that may be missing
- `Table.faithful`, `RowRecord.faithful`, `Element.faithful`, `PageInfo.faithful`
-/

namespace Scoreboard

/-- Data are written as values at most `level` deep, and read back from the normal form of these. -/
structure Faithful {α : Type} (encode : α → Json) (decode : Json → Except DecodeError α)
    (level : Nat) : Prop where
  decode_normal : ∀ a, decode (encode a).normal = .ok a
  canonical : ∀ a depth, Json.Canonical (depth + level) (encode a).normal

namespace Faithful

variable {α : Type} {encode : α → Json} {decode : Json → Except DecodeError α} {level : Nat}

theorem list (h : Faithful encode decode level) :
    Faithful (Json.ofList encode) (Json.toList decode) (level + 1) where
  decode_normal items := by
    rw [Json.ofList, Json.normal, Json.normalItems_eq_map, Json.toList]
    induction items with
    | nil => rfl
    | cons item items ih =>
      rw [List.map_cons, List.map_cons, List.mapM_cons, ih, h.decode_normal]
      rfl
  canonical items depth :=
    Json.canonical_array (List.forall_mem_map.2 fun item _ => h.canonical item depth)

/-- Data that may be missing are read back unless they are written as null themselves. -/
theorem option (h : Faithful encode decode level) (hnull : ∀ a, (encode a).normal ≠ .null) :
    Faithful (Json.ofOption encode) (Json.toOption decode) level where
  decode_normal a? := by
    cases a? with
    | none => rfl
    | some a =>
      show Json.toOption decode (encode a).normal = .ok (some a)
      unfold Json.toOption
      split
      · next heq => exact absurd heq (hnull a)
      · rw [h.decode_normal]
        rfl
  canonical a? depth := by
    cases a? with
    | none => exact .null _
    | some a => exact h.canonical a depth

end Faithful

/-- A record is read from its members if they can be taken and make one. -/
theorem Shape.decode_members {σ α : Type} {shape : Shape} {start : σ}
    {take : σ → String → Json → Except DecodeError σ} {finish : Form → σ → Except DecodeError α}
    {members : List (String × Json)} {record : α} (parts : σ)
    (htake : members.foldlM (fun parts member => take parts member.1 member.2) start = .ok parts)
    (hfinish : finish .members parts = .ok record) :
    shape.decode start take finish (.members members) = .ok record := by
  unfold decode decodeWith
  simp [htake, hfinish, bind, Except.bind, Except.mapError]

namespace Json

theorem faithful_text : Faithful text toText 0 where
  decode_normal _ := rfl
  canonical value depth := .text depth value

theorem faithful_texts : Faithful (ofList text) (toList toText) 1 :=
  faithful_text.list

theorem faithful_optionalText : Faithful (ofOption text) (toOption toText) 0 :=
  faithful_text.option nofun

theorem faithful_year : Faithful ofYear toYear 0 where
  decode_normal year := by
    have hholds : IntKind.int32.holds year.toInt = true :=
      Bool.and_eq_true_iff.2 ⟨decide_eq_true year.le_toInt, decide_eq_true year.toInt_lt⟩
    simp [toYear, ofYear, normal, toWhole, hholds, Except.map]
  canonical year depth := by
    have hleast := year.le_toInt
    have hbound := year.toInt_lt
    exact .integer _ (by simp only [leastMagnitude]; omega) (by simp only [UInt64.size]; omega)

theorem faithful_optionalYear : Faithful (ofOption ofYear) (toOption toYear) 0 :=
  faithful_year.option nofun

end Json

namespace RoundId

theorem faithful : Faithful toJson ofJson 0 where
  decode_normal round := by
    have hholds : IntKind.uint32.holds round.number.toNat = true :=
      Bool.and_eq_true_iff.2 ⟨decide_eq_true (Int.natCast_nonneg _),
        decide_eq_true (Int.ofNat_lt.2 round.number.toNat_lt)⟩
    simp [ofJson, toJson, Json.ofNat, Json.normal, hholds]
  canonical round depth := by
    have hbound := round.number.toNat_lt
    exact .integer _ (by simp only [Json.leastMagnitude]; omega)
      (by simp only [UInt64.size]; omega)

theorem faithful_optional : Faithful (Json.ofOption toJson) (Json.toOption ofJson) 0 :=
  faithful.option nofun

end RoundId

namespace ParticipantId

theorem faithful : Faithful toJson ofJson 0 where
  decode_normal _ := rfl
  canonical player depth := .text depth player.name

theorem faithful_optional : Faithful (Json.ofOption toJson) (Json.toOption ofJson) 0 :=
  faithful.option nofun

end ParticipantId

namespace Cell

theorem faithful : Faithful toJson ofJson 1 where
  decode_normal cell := by
    have hmembers : cell.toJson.normal = .object [
        ("hideable", .bool cell.hideable),
        ("player", (Json.ofOption ParticipantId.toJson cell.player).normal),
        ("round", (Json.ofOption RoundId.toJson cell.round).normal),
        ("text", .text cell.text)] := by
      rw [toJson, Json.normal, Json.ofMembers_eq_foldl]
      cbv
    have hround := RoundId.faithful_optional.decode_normal cell.round
    have hplayer := ParticipantId.faithful_optional.decode_normal cell.player
    have hdecode : shape.decode {} Parts.take Parts.finish cell.toJson.normal.view = .ok cell := by
      rw [hmembers]
      refine Shape.decode_members
        ⟨some cell.text, some cell.round, some cell.player, some cell.hideable⟩ ?_ rfl
      simp only [List.foldlM_cons, List.foldlM_nil, Parts.take, hround, hplayer]
      rfl
    rw [hmembers] at hdecode ⊢
    simp only [Json.view] at hdecode
    simp only [ofJson, hdecode]
  canonical cell depth := by
    refine Json.canonical_object ?_
    simp only [List.forall_mem_cons]
    exact ⟨.text _ _, RoundId.faithful_optional.canonical cell.round depth,
      ParticipantId.faithful_optional.canonical cell.player depth, .bool _ _, List.forall_mem_nil _⟩

theorem faithful_list : Faithful (Json.ofList toJson) (Json.toList ofJson) 2 :=
  faithful.list

end Cell

namespace Row

theorem canonical_toMembers (row : Row) (depth : Nat) :
    ∀ member ∈ row.toMembers, Json.Canonical (depth + 2) member.2.normal := by
  simp only [toMembers, List.forall_mem_cons]
  exact ⟨.text _ _, ParticipantId.faithful_optional.canonical row.player (depth + 2),
    RoundId.faithful_optional.canonical row.round (depth + 2),
    Cell.faithful_list.canonical row.cells depth, List.forall_mem_nil _⟩

theorem faithful : Faithful toJson ofJson 3 where
  decode_normal row := by
    have hmembers : row.toJson.normal = .object [
        ("cells", (Json.ofList Cell.toJson row.cells).normal),
        ("id", .text row.id),
        ("player", (Json.ofOption ParticipantId.toJson row.player).normal),
        ("round", (Json.ofOption RoundId.toJson row.round).normal)] := by
      rw [toJson, Json.normal, Json.ofMembers_eq_foldl]
      cbv
    have hcells := Cell.faithful_list.decode_normal row.cells
    have hround := RoundId.faithful_optional.decode_normal row.round
    have hplayer := ParticipantId.faithful_optional.decode_normal row.player
    rw [hmembers]
    refine Shape.decode_members
      ⟨some row.id, some row.player, some row.round, some row.cells⟩ ?_ rfl
    simp only [List.foldlM_cons, List.foldlM_nil, Parts.take, hcells, hround, hplayer]
    rfl
  canonical row depth := Json.canonical_object (row.canonical_toMembers depth)

theorem faithful_list : Faithful (Json.ofList toJson) (Json.toList ofJson) 4 :=
  faithful.list

end Row

namespace Column

theorem faithful : Faithful toJson ofJson 1 where
  decode_normal column := by
    have hmembers : column.toJson.normal = .object [
        ("hideable", .bool column.hideable),
        ("label", .text column.label),
        ("round", (Json.ofOption RoundId.toJson column.round).normal)] := by
      rw [toJson, Json.normal, Json.ofMembers_eq_foldl]
      cbv
    have hround := RoundId.faithful_optional.decode_normal column.round
    rw [hmembers]
    refine Shape.decode_members
      ⟨some column.label, some column.round, some column.hideable⟩ ?_ rfl
    simp only [List.foldlM_cons, List.foldlM_nil, Parts.take, hround]
    rfl
  canonical column depth := by
    refine Json.canonical_object ?_
    simp only [List.forall_mem_cons]
    exact ⟨.text _ _, RoundId.faithful_optional.canonical column.round depth, .bool _ _,
      List.forall_mem_nil _⟩

theorem faithful_list : Faithful (Json.ofList toJson) (Json.toList ofJson) 2 :=
  faithful.list

end Column

namespace GroupHeader

theorem faithful : Faithful toJson ofJson 1 where
  decode_normal header := by
    have hmembers : header.toJson.normal = .object [
        ("label", (Json.ofOption .text header.label).normal),
        ("round", header.round.toJson.normal),
        ("title", .text header.title)] := by
      rw [toJson, Json.normal, Json.ofMembers_eq_foldl]
      cbv
    have hround := RoundId.faithful.decode_normal header.round
    have hlabel := Json.faithful_optionalText.decode_normal header.label
    rw [hmembers]
    refine Shape.decode_members ⟨some header.round, some header.title, some header.label⟩ ?_ rfl
    simp only [List.foldlM_cons, List.foldlM_nil, Parts.take, hround, hlabel]
    rfl
  canonical header depth := by
    refine Json.canonical_object ?_
    simp only [List.forall_mem_cons]
    exact ⟨RoundId.faithful.canonical header.round depth, .text _ _,
      Json.faithful_optionalText.canonical header.label depth, List.forall_mem_nil _⟩

theorem faithful_list : Faithful (Json.ofList toJson) (Json.toList ofJson) 2 :=
  faithful.list

end GroupHeader

theorem Table.faithful : Faithful toJson ofJson 5 where
  decode_normal table := by
    have hmembers : table.toJson.normal = .object [
        ("columns", (Json.ofList Column.toJson table.columns).normal),
        ("groups", (Json.ofList GroupHeader.toJson table.groups).normal),
        ("id", .text table.id),
        ("leading", (Json.ofList .text table.leading).normal),
        ("rows", (Json.ofList Row.toJson table.rows).normal),
        ("year", (Json.ofOption .ofYear table.year).normal)] := by
      rw [toJson, Json.normal, Json.ofMembers_eq_foldl]
      cbv
    have hcolumns := Column.faithful_list.decode_normal table.columns
    have hgroups := GroupHeader.faithful_list.decode_normal table.groups
    have hleading := Json.faithful_texts.decode_normal table.leading
    have hrows := Row.faithful_list.decode_normal table.rows
    have hyear := Json.faithful_optionalYear.decode_normal table.year
    rw [hmembers]
    refine Shape.decode_members ⟨some table.id, some table.year, some table.leading,
      some table.columns, some table.groups, some table.rows⟩ ?_ rfl
    simp only [List.foldlM_cons, List.foldlM_nil, Parts.take, hcolumns, hgroups, hleading, hrows,
      hyear]
    rfl
  canonical table depth := by
    refine Json.canonical_object ?_
    simp only [List.forall_mem_cons]
    exact ⟨.text _ _, Json.faithful_optionalYear.canonical table.year (depth + 4),
      Json.faithful_texts.canonical table.leading (depth + 3),
      Column.faithful_list.canonical table.columns (depth + 2),
      GroupHeader.faithful_list.canonical table.groups (depth + 2),
      Row.faithful_list.canonical table.rows depth, List.forall_mem_nil _⟩

theorem ElementKind.faithful : Faithful toJson ofJson 0 where
  decode_normal kind := by cases kind <;> rfl
  canonical kind depth := .text depth kind.name

theorem Element.faithful : Faithful toJson ofJson 1 where
  decode_normal element := by
    have hmembers : element.toJson.normal = .object [
        ("id", .text element.id),
        ("kind", element.kind.toJson.normal),
        ("player", (Json.ofOption ParticipantId.toJson element.player).normal),
        ("round", (Json.ofOption RoundId.toJson element.round).normal),
        ("text", .text element.text)] := by
      rw [toJson, Json.normal, Json.ofMembers_eq_foldl]
      cbv
    have hkind := ElementKind.faithful.decode_normal element.kind
    have hround := RoundId.faithful_optional.decode_normal element.round
    have hplayer := ParticipantId.faithful_optional.decode_normal element.player
    rw [hmembers]
    refine Shape.decode_members ⟨some element.id, some element.kind, some element.player,
      some element.round, some element.text⟩ ?_ rfl
    simp only [List.foldlM_cons, List.foldlM_nil, Parts.take, hkind, hround, hplayer]
    rfl
  canonical element depth := by
    refine Json.canonical_object ?_
    simp only [List.forall_mem_cons]
    exact ⟨.text _ _, ElementKind.faithful.canonical element.kind depth,
      ParticipantId.faithful_optional.canonical element.player depth,
      RoundId.faithful_optional.canonical element.round depth, .text _ _, List.forall_mem_nil _⟩

theorem PageInfo.faithful : Faithful toJson ofJson 1 where
  decode_normal info := by
    have hmembers : info.toJson.normal = .object [
        ("title", .text info.title),
        ("year", (Json.ofOption .ofYear info.year).normal)] := by
      rw [toJson, Json.normal, Json.ofMembers_eq_foldl]
      cbv
    have hyear := Json.faithful_optionalYear.decode_normal info.year
    rw [hmembers]
    refine Shape.decode_members ⟨some info.title, some info.year⟩ ?_ rfl
    simp only [List.foldlM_cons, List.foldlM_nil, Parts.take, hyear]
    rfl
  canonical info depth := by
    refine Json.canonical_object ?_
    simp only [List.forall_mem_cons]
    exact ⟨.text _ _, Json.faithful_optionalYear.canonical info.year depth, List.forall_mem_nil _⟩

theorem RowRecord.faithful : Faithful toJson ofJson 3 where
  decode_normal record := by
    have hmembers : record.toJson.normal = .object [
        ("cells", (Json.ofList Cell.toJson record.row.cells).normal),
        ("id", .text record.row.id),
        ("player", (Json.ofOption ParticipantId.toJson record.row.player).normal),
        ("round", (Json.ofOption RoundId.toJson record.row.round).normal),
        ("table_id", .text record.tableId)] := by
      rw [toJson, Json.normal, Json.ofMembers_eq_foldl]
      cbv
    have hcells := Cell.faithful_list.decode_normal record.row.cells
    have hround := RoundId.faithful_optional.decode_normal record.row.round
    have hplayer := ParticipantId.faithful_optional.decode_normal record.row.player
    -- A row has no use for the name of its table.
    have hrow : Row.ofJson record.toJson.normal = .ok record.row := by
      rw [hmembers]
      refine Shape.decode_members ⟨some record.row.id, some record.row.player,
        some record.row.round, some record.row.cells⟩ ?_ rfl
      simp only [List.foldlM_cons, List.foldlM_nil, Row.Parts.take, hcells, hround, hplayer]
      rfl
    rw [hmembers] at hrow ⊢
    simp [ofJson, hrow, Json.member?, Json.toText, bind, Except.bind, pure, Except.pure]
  canonical record depth :=
    Json.canonical_object
      (List.forall_mem_cons.2 ⟨.text _ _, record.row.canonical_toMembers depth⟩)

end Scoreboard
