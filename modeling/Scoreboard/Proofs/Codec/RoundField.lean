import Scoreboard.Proofs.Codec.NormalForm
import Scoreboard.Proofs.Codec.Round

/-!
# Rounds in data

Round headers, columns, rows, cells, elements and interactions are tagged with rounds. Wherever a
round is written in their data, all its spellings are read alike, so nothing that one spelling tags
is missed by another.

## Main definitions

- `RoundId.Slot`, `RoundId.EventSlot` — the places where a round is written in data
- `RoundId.ReadsRound` — a function reads a round from its places, and nothing else from there
- `RoundId.SharesRound` — and there are data in which it reads every round
- `RoundId.HoldsRound` — a record with a round among its fields

## Main statements

- `RoundId.HoldsRound.readsRound` — a record with a round among its fields reads it from its places
- `RoundId.ReadsRound.within` — data that hold other data read the round of these
- `RoundId.spellings_agree` — the spellings of rounds, and the data that are tagged with rounds
-/

namespace Scoreboard

/-- The round that an interaction names. -/
def Event.round? : Event → Option RoundId
  | roundSelect round => some round
  | roundToggle round => some round
  | _ => none

namespace RoundId

/-- What is written for a round, or for none. -/
def Marks : Option RoundId → Json → Prop
  | none, json => json = .null
  | some round, json => Spells round.number.toNat json

/-- A function reads what is written for a round. -/
structure ReadsMark {ρ : Type} (read : Json → Except DecodeError ρ) (mark : ρ → Option RoundId) :
    Prop where
  read_iff : ∀ json value, read json = .ok value ↔ Marks (mark value) json
  exists_mark : ∀ round, ∃ value, mark value = some round

theorem readsMark_ofJson : ReadsMark ofJson some where
  read_iff _ _ := ofJson_eq_ok_iff
  exists_mark round := ⟨round, rfl⟩

theorem readsMark_toOption : ReadsMark (Json.toOption ofJson) id where
  read_iff json round? := by
    have hmap : ∀ json, (ofJson json).map some = .ok round? ↔
        ∃ round, ofJson json = .ok round ∧ some round = round? := by
      intro json
      cases ofJson json <;> simp [Except.map]
    unfold Json.toOption
    split
    · cases round? with
      | none => exact ⟨fun _ => rfl, fun _ => rfl⟩
      | some round =>
        constructor
        · nofun
        · nofun
    · next hnull =>
      rw [hmap]
      cases round? with
      | none => exact ⟨fun ⟨_, _, hsome⟩ => (nomatch hsome), fun h => absurd h hnull⟩
      | some round => simp [ofJson_eq_ok_iff, Marks]
  exists_mark round := ⟨some round, rfl⟩

/-- The places for a value in data: a member of a name in an object where no later member has that
    name, and the item of a number in a list. -/
inductive Slot (field : String) (place : Option Nat) : (Json → Json) → Prop
  | member (front : List (String × Json)) {back : List (String × Json)}
      (hback : ∀ member ∈ back, member.1 ≠ field) :
      Slot field place fun json => .object (front ++ (field, json) :: back)
  | item (front back : List Json) (hplace : place = some front.length) :
      Slot field place fun json => .array (front ++ json :: back)

/-- A function reads a round from its places in data: the data are tagged with what is written
    there, and it plays no part how a round is spelled, nor for acceptance which one it is. -/
structure ReadsRound {α : Type} (decode : Json → Except DecodeError α)
    (slots : (Json → Json) → Prop) (tag : α → Option RoundId) : Prop where
  marks_tag : ∀ slot, slots slot → ∀ json a, decode (slot json) = .ok a → Marks (tag a) json
  decode_congr : ∀ slot, slots slot → ∀ round json json', Marks (some round) json →
    Marks (some round) json' → decode (slot json) = decode (slot json')
  exists_decode : ∀ slot, slots slot → ∀ round round' json json', Marks (some round) json →
    Marks (some round') json' → (∃ a, decode (slot json) = .ok a) →
      ∃ a, decode (slot json') = .ok a

section

variable {σ ρ α : Type} {read : Json → Except DecodeError ρ} {mark : ρ → Option RoundId}
  {put : ρ → σ → σ} {tag : α → Option RoundId}

/-- The last step of reading a record tags it with the round that was put aside, and does nothing
    else with that round. -/
def Tags (mark : ρ → Option RoundId) (put : ρ → σ → σ) (tag : α → Option RoundId)
    (last : σ → Except DecodeError α) : Prop :=
  ∃ retag : ρ → α → α, (∀ value a, tag (retag value a) = mark value) ∧
    ∀ value value' parts, last (put value parts) = (last (put value' parts)).map (retag value)

theorem Tags.of_eq_ok {last : σ → Except DecodeError α} (h : Tags mark put tag last) {parts : σ}
    {value : ρ} {a : α} (hlast : last (put value parts) = .ok a) :
    tag a = mark value ∧ ∀ value', ∃ a', last (put value' parts) = .ok a' := by
  obtain ⟨retag, htag, hretag⟩ := h
  constructor
  · have hself := hretag value value parts
    rw [hlast] at hself
    rw [Except.ok.inj hself, htag]
  · intro value'
    rw [hretag value' value, hlast]
    exact ⟨_, rfl⟩

/-- A round that is read between other parts, and put aside until the last step. -/
theorem readsRound_of_steps (put : ρ → σ → σ) {decode : Json → Except DecodeError α}
    {slots : (Json → Json) → Prop} (hread : ReadsMark read mark)
    (hsteps : ∀ slot, slots slot → ∃ (before : Except DecodeError σ)
      (after : σ → Except DecodeError σ) (last : σ → Except DecodeError α), Tags mark put tag last ∧
        ∀ json, decode (slot json) = before >>= fun parts => read json >>= fun value =>
          after parts >>= fun parts => last (put value parts)) :
    ReadsRound decode slots tag where
  marks_tag slot hslot json a hdecode := by
    obtain ⟨before, after, last, htags, hsteps⟩ := hsteps slot hslot
    simp only [hsteps, bind_eq_ok_iff] at hdecode
    obtain ⟨parts, -, value, hvalue, parts', -, hlast⟩ := hdecode
    rw [(htags.of_eq_ok hlast).1]
    exact (hread.read_iff _ _).1 hvalue
  decode_congr slot hslot round json json' hjson hjson' := by
    obtain ⟨before, after, last, -, hsteps⟩ := hsteps slot hslot
    obtain ⟨value, hvalue⟩ := hread.exists_mark round
    rw [hsteps, hsteps, (hread.read_iff json value).2 (hvalue ▸ hjson),
      (hread.read_iff json' value).2 (hvalue ▸ hjson')]
  exists_decode slot hslot round round' json json' hjson hjson' hdecode := by
    obtain ⟨before, after, last, htags, hsteps⟩ := hsteps slot hslot
    obtain ⟨value', hvalue'⟩ := hread.exists_mark round'
    simp only [hsteps, bind_eq_ok_iff] at hdecode ⊢
    obtain ⟨a, parts, hbefore, value, -, parts', hafter, hlast⟩ := hdecode
    obtain ⟨a', hlast'⟩ := (htags.of_eq_ok hlast).2 value'
    exact ⟨a', parts, hbefore, value', (hread.read_iff _ _).2 (hvalue' ▸ hjson'), parts', hafter,
      hlast'⟩

/-- Reading a round as one of the fields of a record. -/
structure HoldsRound (shape : Shape) (take : σ → String → Json → Except DecodeError σ)
    (finish : Form → σ → Except DecodeError α) (field : String) (earlier later : List String)
    (read : Json → Except DecodeError ρ) (mark : ρ → Option RoundId) (put : ρ → σ → σ)
    (tag : α → Option RoundId) : Prop where
  readsMark : ReadsMark read mark
  fields_eq : shape.fields = earlier ++ field :: later
  notMem_later : field ∉ later
  take_field : ∀ parts json, take parts field json = (read json).map fun value => put value parts
  take_other : ∀ {other}, other ≠ field → ∀ value parts json,
    take (put value parts) other json = (take parts other json).map (put value)
  tags_finish : ∀ form, Tags mark put tag (finish form)

namespace HoldsRound

variable {shape : Shape} {take : σ → String → Json → Except DecodeError σ}
  {finish : Form → σ → Except DecodeError α} {field : String} {earlier later : List String}
  (h : HoldsRound shape take finish field earlier later read mark put tag)

include h

theorem foldlM_put {back : List (String × Json)} (hback : ∀ member ∈ back, member.1 ≠ field)
    (value : ρ) (parts : σ) :
    back.foldlM (fun parts member => take parts member.1 member.2) (put value parts) =
      (back.foldlM (fun parts member => take parts member.1 member.2) parts).map (put value) := by
  induction back generalizing parts with
  | nil => rfl
  | cons member back ih =>
    obtain ⟨hmember, hback⟩ := List.forall_mem_cons.1 hback
    rw [List.foldlM_cons, List.foldlM_cons, h.take_other hmember]
    cases take parts member.1 member.2 with
    | error _ => rfl
    | ok parts => exact ih hback parts

theorem exists_steps (start : σ) (front : List (String × Json)) {back : List (String × Json)}
    (hback : ∀ member ∈ back, member.1 ≠ field) :
    ∃ (before : Except DecodeError σ) (after : σ → Except DecodeError σ),
      ∀ (last : σ → Except DecodeError α) (json : Json),
        (front ++ (field, json) :: back).foldlM (fun parts member => take parts member.1 member.2)
            start >>= last =
          before >>= fun parts => read json >>= fun value =>
            after parts >>= fun parts => last (put value parts) := by
  refine ⟨front.foldlM (fun parts member => take parts member.1 member.2) start,
    fun parts => back.foldlM (fun parts member => take parts member.1 member.2) parts,
    fun last json => ?_⟩
  -- The members in front do not know the round, and those behind only carry it along.
  rw [List.foldlM_append, bind_assoc]
  refine congrArg _ (funext fun parts => ?_)
  rw [List.foldlM_cons, h.take_field]
  cases read json with
  | error _ => rfl
  | ok value =>
    show List.foldlM _ (put value parts) back >>= last = List.foldlM _ parts back >>= _
    rw [h.foldlM_put hback]
    cases back.foldlM (fun parts member => take parts member.1 member.2) parts <;> rfl

theorem zip_fields (front back : List Json) (json : Json) (hplace : earlier.length = front.length) :
    shape.fields.zip (front ++ json :: back) =
        earlier.zip front ++ (field, json) :: later.zip back ∧
      ∀ member ∈ later.zip back, member.1 ≠ field := by
  rw [h.fields_eq, List.zip_append hplace]
  -- The fields of a list come in their order, so what stands behind a field is of other fields.
  refine ⟨rfl, fun member hmember heq => h.notMem_later ?_⟩
  rw [← heq]
  exact (List.of_mem_zip hmember).1

theorem tags_checked (form : Form) (length : Nat) :
    Tags mark put tag fun parts => finish form parts >>= fun record =>
      shape.checkLength length >>= fun _ => .ok record := by
  obtain ⟨retag, htag, hretag⟩ := h.tags_finish form
  refine ⟨retag, htag, fun value value' parts => ?_⟩
  dsimp only
  rw [hretag value value']
  cases finish form (put value' parts) <;> cases shape.checkLength length <;> rfl

theorem readsRound (start : σ) :
    ReadsRound (fun json => shape.decode start take finish json.view)
      (Slot field (some earlier.length)) tag := by
  refine readsRound_of_steps put h.readsMark fun slot hslot => ?_
  cases hslot with
  | member front hback =>
    obtain ⟨before, after, hsteps⟩ := h.exists_steps start front hback
    refine ⟨before, after, _, h.tags_finish .members, fun json => ?_⟩
    rw [← hsteps]
    simp only [Json.view, Shape.decode, Shape.decodeWith, mapError_id]
  | item front back hplace =>
    have hlength := Option.some.inj hplace
    have hback := (h.zip_fields front back .null hlength).2
    obtain ⟨before, after, hsteps⟩ := h.exists_steps start (earlier.zip front) hback
    refine ⟨before, after, _, h.tags_checked .items (front.length + (back.length + 1)),
      fun json => ?_⟩
    rw [← hsteps fun parts => finish .items parts >>= fun record =>
      shape.checkLength _ >>= fun _ => .ok record]
    simp only [Json.view, Shape.decode, Shape.decodeWith, mapError_id, List.length_append,
      List.length_cons, (h.zip_fields front back json hlength).1]
    rfl

end HoldsRound

end

theorem holdsRound_row : HoldsRound Row.shape Row.Parts.take Row.Parts.finish "round"
    ["id", "player"] ["cells"] (Json.toOption ofJson) id
    (fun value parts => { parts with round := some value }) Row.round where
  readsMark := readsMark_toOption
  fields_eq := rfl
  notMem_later := by decide
  take_field parts json := by
    simp only [Row.Parts.take]
    cases json.toOption ofJson <;> rfl
  take_other hother value parts json := by
    unfold Row.Parts.take
    split
    · cases json.toText <;> rfl
    · cases json.toOption ParticipantId.ofJson <;> rfl
    · exact absurd rfl hother
    · cases json.toList Cell.ofJson <;> rfl
    · rfl
  tags_finish form := by
    refine ⟨fun round? row => { row with round := round? }, fun _ _ => rfl, fun _ _ parts => ?_⟩
    obtain ⟨name, player, round, cells⟩ := parts
    cases name <;> cases cells <;> rfl

theorem holdsRound_column : HoldsRound Column.shape Column.Parts.take Column.Parts.finish "round"
    ["label"] ["hideable"] (Json.toOption ofJson) id
    (fun value parts => { parts with round := some value }) Column.round where
  readsMark := readsMark_toOption
  fields_eq := rfl
  notMem_later := by decide
  take_field parts json := by
    simp only [Column.Parts.take]
    cases json.toOption ofJson <;> rfl
  take_other hother value parts json := by
    unfold Column.Parts.take
    split
    · cases json.toText <;> rfl
    · exact absurd rfl hother
    · cases json.toBool <;> rfl
    · rfl
  tags_finish form := by
    refine ⟨fun round? column => { column with round := round? }, fun _ _ => rfl,
      fun _ _ parts => ?_⟩
    obtain ⟨label, round, hideable⟩ := parts
    cases label <;> rfl

theorem holdsRound_element : HoldsRound Element.shape Element.Parts.take Element.Parts.finish
    "round" ["id", "kind", "player"] ["text"] (Json.toOption ofJson) id
    (fun value parts => { parts with round := some value }) Element.round where
  readsMark := readsMark_toOption
  fields_eq := rfl
  notMem_later := by decide
  take_field parts json := by
    simp only [Element.Parts.take]
    cases json.toOption ofJson <;> rfl
  take_other hother value parts json := by
    unfold Element.Parts.take
    split
    · cases json.toText <;> rfl
    · cases ElementKind.ofJson json <;> rfl
    · cases json.toOption ParticipantId.ofJson <;> rfl
    · exact absurd rfl hother
    · cases json.toText <;> rfl
    · rfl
  tags_finish form := by
    refine ⟨fun round? element => { element with round := round? }, fun _ _ => rfl,
      fun _ _ parts => ?_⟩
    obtain ⟨name, kind, player, round, text⟩ := parts
    cases name <;> rfl

theorem holdsRound_cell : HoldsRound Cell.shape Cell.Parts.take Cell.Parts.finish "round"
    ["text"] ["player", "hideable"] (Json.toOption ofJson) id
    (fun value parts => { parts with round := some value }) Cell.round where
  readsMark := readsMark_toOption
  fields_eq := rfl
  notMem_later := by decide
  take_field parts json := by
    simp only [Cell.Parts.take]
    cases json.toOption ofJson <;> rfl
  take_other hother value parts json := by
    unfold Cell.Parts.take
    split
    · cases json.toText <;> rfl
    · exact absurd rfl hother
    · cases json.toOption ParticipantId.ofJson <;> rfl
    · cases json.toBool <;> rfl
    · rfl
  tags_finish form := by
    refine ⟨fun round? cell => { cell with round := round? }, fun _ _ => rfl, fun _ _ parts => ?_⟩
    obtain ⟨text, round, player, hideable⟩ := parts
    cases text <;> rfl

theorem holdsRound_groupHeader : HoldsRound GroupHeader.shape GroupHeader.Parts.take
    GroupHeader.Parts.finish "round" [] ["title", "label"] ofJson some
    (fun value parts => { parts with round := some value })
    (fun header => some header.round) where
  readsMark := readsMark_ofJson
  fields_eq := rfl
  notMem_later := by decide
  take_field parts json := by
    simp only [GroupHeader.Parts.take]
    cases ofJson json <;> rfl
  take_other hother value parts json := by
    unfold GroupHeader.Parts.take
    split
    · exact absurd rfl hother
    · cases json.toText <;> rfl
    · cases json.toOption Json.toText <;> rfl
    · rfl
  tags_finish form := by
    refine ⟨fun round header => { header with round := round }, fun _ _ => rfl, fun _ _ parts => ?_⟩
    obtain ⟨round, title, label⟩ := parts
    cases title <;> rfl

/-- An interaction with a round and nothing else. -/
theorem holdsRound_single (name : String) {make : RoundId → Event}
    (hmake : ∀ round, (make round).round? = some round) :
    HoldsRound (Event.singleShape name "roundId")
      (fun part other json => if other = "roundId" then (ofJson json).map some else .ok part)
      (fun form part => ((Event.singleShape name "roundId").required form "roundId" part).map make)
      "roundId" [] [] ofJson some (fun value _ => some value) Event.round? where
  readsMark := readsMark_ofJson
  fields_eq := rfl
  notMem_later := List.not_mem_nil
  take_field _ _ := if_pos rfl
  take_other hother value parts json := by
    rw [if_neg hother, if_neg hother]
    rfl
  tags_finish form := ⟨fun value _ => make value, fun value _ => hmake value, fun _ _ _ => rfl⟩

/-- Data around other data read the round of these, if they do not look at it themselves. -/
theorem ReadsRound.within {α β : Type} {inner : Json → Except DecodeError α}
    {outer : Json → Except DecodeError β} {slots slots' : (Json → Json) → Prop}
    {tag : α → Option RoundId} {tag' : β → Option RoundId} (h : ReadsRound inner slots tag)
    (houter : ∀ slot', slots' slot' → ∃ slot, slots slot ∧
      ∃ finish : Except DecodeError α → Except DecodeError β,
        (∀ json, outer (slot' json) = finish (inner (slot json))) ∧
          ∀ result b, finish result = .ok b → ∃ a, result = .ok a ∧ tag' b = tag a ∧
            ∀ a', ∃ b', finish (.ok a') = .ok b') :
    ReadsRound outer slots' tag' where
  marks_tag slot' hslot' json b hdecode := by
    obtain ⟨slot, hslot, finish, heq, hfinish⟩ := houter slot' hslot'
    rw [heq] at hdecode
    obtain ⟨a, hinner, htag, -⟩ := hfinish _ _ hdecode
    rw [htag]
    exact h.marks_tag slot hslot json a hinner
  decode_congr slot' hslot' round json json' hjson hjson' := by
    obtain ⟨slot, hslot, finish, heq, -⟩ := houter slot' hslot'
    rw [heq, heq, h.decode_congr slot hslot round json json' hjson hjson']
  exists_decode slot' hslot' round round' json json' hjson hjson' hdecode := by
    obtain ⟨slot, hslot, finish, heq, hfinish⟩ := houter slot' hslot'
    obtain ⟨b, hdecode⟩ := hdecode
    rw [heq] at hdecode
    obtain ⟨a, hinner, -, hothers⟩ := hfinish _ _ hdecode
    obtain ⟨a', hinner'⟩ := h.exists_decode slot hslot round round' json json' hjson hjson'
      ⟨a, hinner⟩
    obtain ⟨b', hb'⟩ := hothers a'
    exact ⟨b', by rw [heq, hinner', hb']⟩

theorem Slot.last {field : String} {place : Option Nat} (front : List (String × Json)) :
    Slot field place fun json => .object (front ++ [(field, json)]) :=
  .member front (List.forall_mem_nil _)

theorem Slot.of_none {field : String} {slot : Json → Json} (h : Slot field none slot)
    (place : Option Nat) : Slot field place slot := by
  cases h with
  | member front hback => exact .member front hback
  | item _ _ hplace => cases hplace

theorem readsRound_cell : ReadsRound Cell.ofJson (Slot "round" none) Cell.round := by
  refine (holdsRound_cell.readsRound {}).within fun slot hslot =>
    ⟨slot, hslot.of_none _, fun result => result.mapError fun _ => .noForm Cell.shape.name, ?_, ?_⟩
  · intro json
    cases hslot with
    | member front hback =>
      simp only [Cell.ofJson, Json.view]
      split
      · next heq => rw [heq]; rfl
      · next heq => rw [heq]; rfl
    | item _ _ hplace => cases hplace
  · intro result cell hcell
    cases result with
    | error _ => cases hcell
    | ok cell' => exact ⟨cell', rfl, congrArg _ (Except.ok.inj hcell).symm, fun a' => ⟨a', rfl⟩⟩

theorem member?_slot {field name : String} (hname : field ≠ name)
    (front back : List (String × Json)) (json : Json) :
    (Json.object (front ++ (field, json) :: back)).member? name =
      (Json.object (front ++ back)).member? name := by
  simp [Json.member?, List.find?_append, hname]

/-- The name of the table is looked at first, and the round plays no part in it. -/
theorem rowRecord_ofJson_slot (front back : List (String × Json)) :
    (∃ e, ∀ json, RowRecord.ofJson (.object (front ++ ("round", json) :: back)) = .error e) ∨
      ∃ tableId, ∀ json, RowRecord.ofJson (.object (front ++ ("round", json) :: back)) =
        (Row.ofJson (.object (front ++ ("round", json) :: back))).map (RowRecord.mk tableId) := by
  have hmember : ∀ json, (Json.object (front ++ ("round", json) :: back)).member? "table_id" =
      (Json.object (front ++ back)).member? "table_id" :=
    member?_slot (by decide) front back
  cases hname : (Json.object (front ++ back)).member? "table_id" with
  | none =>
    refine .inl ⟨.missing "table_id", fun json => ?_⟩
    rw [RowRecord.ofJson, hmember, hname]
    rfl
  | some name =>
    cases htext : name.toText with
    | error e =>
      refine .inl ⟨e, fun json => ?_⟩
      rw [RowRecord.ofJson, hmember, hname]
      show (name.toText >>= _) = _
      rw [htext]
      rfl
    | ok tableId =>
      refine .inr ⟨tableId, fun json => ?_⟩
      rw [RowRecord.ofJson, hmember, hname]
      show (name.toText >>= _) = _
      rw [htext]
      cases Row.ofJson (.object (front ++ ("round", json) :: back)) <;> rfl

theorem readsRound_row : ReadsRound Row.ofJson (Slot "round" (some 2)) Row.round :=
  holdsRound_row.readsRound {}

theorem readsRound_rowRecord : ReadsRound RowRecord.ofJson (Slot "round" none)
    (fun record => record.row.round) := by
  refine readsRound_row.within fun slot hslot => ⟨slot, hslot.of_none _, ?_⟩
  cases hslot with
  | @member front back hback =>
    obtain ⟨e, herror⟩ | ⟨tableId, hrow⟩ := rowRecord_ofJson_slot front back
    · exact ⟨fun _ => .error e, herror, fun _ _ hrecord => nomatch hrecord⟩
    · refine ⟨fun result => result.map (RowRecord.mk tableId), hrow, ?_⟩
      intro result record hrecord
      cases result with
      | error _ => cases hrecord
      | ok row =>
        cases hrecord
        exact ⟨row, rfl, rfl, fun row' => ⟨⟨tableId, row'⟩, rfl⟩⟩
  | item _ _ hplace => cases hplace

theorem Marks.eq_some {round? : Option RoundId} {round : RoundId} {json : Json}
    (h : Marks round? json) (hround : Marks (some round) json) : round? = some round := by
  have hread := ofJson_eq_ok_iff.2 hround
  cases round? with
  | none =>
    rw [show json = .null from h] at hread
    cases hread
  | some round' =>
    have hread' := ofJson_eq_ok_iff.2 h
    rw [hread] at hread'
    rw [Except.ok.inj hread']

/-- A function reads a round from its places in data, and there are data in which it reads all
    rounds in all their spellings. -/
structure SharesRound {α : Type} (decode : Json → Except DecodeError α)
    (slots : (Json → Json) → Prop) (tag : α → Option RoundId) : Prop
    extends ReadsRound decode slots tag where
  exists_slot : ∃ slot, slots slot ∧ ∀ round json, Marks (some round) json →
    ∃ a, decode (slot json) = .ok a ∧ tag a = some round

theorem ReadsRound.shares {α : Type} {decode : Json → Except DecodeError α}
    {slots : (Json → Json) → Prop} {tag : α → Option RoundId} (h : ReadsRound decode slots tag)
    {slot : Json → Json} (hslot : slots slot) (hzero : ∃ a, decode (slot (.integer 0)) = .ok a) :
    SharesRound decode slots tag where
  toReadsRound := h
  exists_slot := by
    refine ⟨slot, hslot, fun round json hjson => ?_⟩
    obtain ⟨a, hdecode⟩ := h.exists_decode slot hslot ⟨0⟩ round _ json .number hjson hzero
    exact ⟨a, hdecode, (h.marks_tag slot hslot json a hdecode).eq_some hjson⟩

/-- The places for the round of an interaction of a kind: the name of the kind is a member as well,
    or the item in front. -/
inductive EventSlot (name : String) : (Json → Json) → Prop
  | member {front back : List (String × Json)}
      (hkind : (Json.object (front ++ back)).member? "kind" = some (.text name))
      (hback : ∀ member ∈ back, member.1 ≠ "roundId") :
      EventSlot name fun json => .object (front ++ ("roundId", json) :: back)
  | item (back : List Json) : EventSlot name fun json => .array (.text name :: json :: back)

theorem readsRound_event {name : String} {kind : EventKind}
    (hfields : ReadsRound (fun json => Event.ofFields kind json.view) (Slot "roundId" (some 0))
      Event.round?)
    (hname : chooseFrom EventKind.choices name = .ok kind) :
    ReadsRound Event.ofJson (EventSlot name) Event.round? := by
  refine hfields.within fun slot hslot => ?_
  cases hslot with
  | @member front back hkind hback =>
    refine ⟨_, .member front hback, id, fun json => ?_,
      fun _ event hevent => ⟨event, hevent, rfl, fun event' => ⟨event', rfl⟩⟩⟩
    refine Event.ofJson_object ?_ hname
    rw [member?_slot (by decide), hkind]
  | item back =>
    refine ⟨_, .item [] back rfl, id, fun json => ?_,
      fun _ event hevent => ⟨event, hevent, rfl, fun event' => ⟨event', rfl⟩⟩⟩
    show (chooseFrom EventKind.choices name >>= _) = _
    rw [hname]
    rfl

/-- A value is a round if and only if it is the number of that round or a text of its digits, and
    nothing beyond 32 bits is one. Round headers, columns, rows, cells and elements, the data of row
    records and interactions are tagged with the round that is written in them, whichever of its
    spellings is. -/
theorem spellings_agree :
    (∀ json round, ofJson json = .ok round ↔ Spells round.number.toNat json) ∧
      (∀ json, (∃ round, ofJson json = .ok round) ↔ ∃ n < UInt32.size, Spells n json) ∧
      SharesRound GroupHeader.ofJson (Slot "round" (some 0)) (fun header => some header.round) ∧
      SharesRound Column.ofJson (Slot "round" (some 1)) Column.round ∧
      SharesRound Row.ofJson (Slot "round" (some 2)) Row.round ∧
      SharesRound RowRecord.ofJson (Slot "round" none) (fun record => record.row.round) ∧
      SharesRound Cell.ofJson (Slot "round" none) Cell.round ∧
      SharesRound Element.ofJson (Slot "round" (some 3)) Element.round ∧
      SharesRound Event.ofJson (EventSlot "roundSelect") Event.round? ∧
      SharesRound Event.ofJson (EventSlot "roundToggle") Event.round? := by
  have hselect : ReadsRound (fun json => Event.ofFields .roundSelect json.view)
      (Slot "roundId" (some 0)) Event.round? :=
    (holdsRound_single "RoundSelect" fun _ => rfl).readsRound none
  have htoggle : ReadsRound (fun json => Event.ofFields .roundToggle json.view)
      (Slot "roundId" (some 0)) Event.round? :=
    (holdsRound_single "RoundToggle" fun _ => rfl).readsRound none
  refine ⟨fun _ _ => ofJson_eq_ok_iff, fun json => ?_,
    (holdsRound_groupHeader.readsRound {}).shares (.last [("title", .text "")]) ⟨_, rfl⟩,
    (holdsRound_column.readsRound {}).shares (.last [("label", .text "")]) ⟨_, rfl⟩,
    readsRound_row.shares (.last [("id", .text ""), ("cells", .array [])]) ⟨_, rfl⟩,
    readsRound_rowRecord.shares
      (.last [("table_id", .text ""), ("id", .text ""), ("cells", .array [])]) ⟨_, rfl⟩,
    readsRound_cell.shares (.last [("text", .text "")]) ⟨_, rfl⟩,
    (holdsRound_element.readsRound {}).shares (.last [("id", .text "")]) ⟨_, rfl⟩,
    (readsRound_event hselect rfl).shares (.item []) ⟨_, rfl⟩,
    (readsRound_event htoggle rfl).shares (.item []) ⟨_, rfl⟩⟩
  constructor
  · rintro ⟨round, hround⟩
    exact ⟨_, round.number.toNat_lt, ofJson_eq_ok_iff.1 hround⟩
  · rintro ⟨n, hn, hspells⟩
    refine ⟨⟨UInt32.ofNat n⟩, ofJson_eq_ok_iff.2 ?_⟩
    rwa [UInt32.toNat_ofNat_of_lt' hn]

-- A text of a number tags a column with the round that the number itself tags a row with.
example :
    (Column.ofJson (.array [.text "Score", .text " +02 "])).map Column.round = .ok (some ⟨2⟩) ∧
      (Row.ofJson (.array [.text "a", .null, .integer 2, .array []])).map Row.round =
        .ok (some ⟨2⟩) :=
  ⟨rfl, rfl⟩

end RoundId

end Scoreboard
