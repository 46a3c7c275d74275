import Mathlib.Data.List.Destutter
import Mathlib.Data.List.Nodup
import Mathlib.Data.List.Perm.Basic
import Scoreboard.Page.Tags
import Scoreboard.Proofs.SortedMap

/-!
# What the tags of a page are

The participants and rounds that are listed for a page are those that something on it is tagged
with, each once. They are told from the tags alone, so pages with the same tags list the same.

## Main definitions

- `ListsFirst` — a list has the things of another one, each once, as they first come up there
- `Page.TagsPlayer`, `Page.TagsRound` — something on the page carries a tag

## Main statements

- `Page.listsFirst_participants`, `Page.mem_participants_iff` — the participants of a page
- `Page.pairwise_rounds`, `Page.mem_rounds_iff` — the rounds of a page
- `ascendingRounds_eq_destutter` — rounds are listed by sorting them and dropping repeats
- `Page.participants_perm`, `Page.rounds_eq` — pages with the same tags
-/

namespace Scoreboard

/-- A list has the things of another one, each once, and in the order in which they first come up
    there. -/
structure ListsFirst {α : Type} (listed all : List α) : Prop where
  nodup : listed.Nodup
  mem_iff : ∀ a, a ∈ listed ↔ a ∈ all
  /-- Of two things, the one that is listed first comes up when the other has not come up yet. -/
  inOrder : listed.Pairwise fun a b => ∃ front back, all = front ++ a :: back ∧ b ∉ front

namespace ListsFirst

variable {α : Type} [DecidableEq α] {listed all : List α}

/-- One more thing is listed at the end, unless it came up before. -/
theorem concat (h : ListsFirst listed all) (a : α) :
    ListsFirst (if a ∈ listed then listed else listed ++ [a]) (all ++ [a]) := by
  have hold : listed.Pairwise fun b c =>
      ∃ front back, all ++ [a] = front ++ b :: back ∧ c ∉ front := by
    refine h.inOrder.imp ?_
    rintro b c ⟨front, back, rfl, hc⟩
    exact ⟨front, back ++ [a], by simp, hc⟩
  split
  · next hmem =>
    refine ⟨h.nodup, fun b => ?_, hold⟩
    rw [h.mem_iff, List.mem_append, List.mem_singleton]
    refine ⟨.inl, Or.rec id ?_⟩
    rintro rfl
    exact (h.mem_iff b).1 hmem
  · next hnew =>
    refine ⟨List.nodup_append.2 ⟨h.nodup, List.nodup_singleton a, ?_⟩, fun b => ?_, ?_⟩
    · intro b hb c hc
      rw [List.mem_singleton.1 hc]
      exact ne_of_mem_of_not_mem hb hnew
    · rw [List.mem_append, List.mem_append, h.mem_iff]
    · refine List.pairwise_append.2 ⟨hold, List.pairwise_singleton .., fun b hb c hc => ?_⟩
      obtain rfl := List.mem_singleton.1 hc
      -- What is listed came up before, and the new thing did not.
      obtain ⟨front, back, rfl⟩ := List.append_of_mem ((h.mem_iff b).1 hb)
      refine ⟨front, back ++ [c], by simp, fun hfront => hnew ((h.mem_iff c).2 ?_)⟩
      exact List.mem_append_left _ hfront

theorem foldl (h : ListsFirst listed all) (later : List α) :
    ListsFirst (later.foldl (fun seen a => if a ∈ seen then seen else seen ++ [a]) listed)
      (all ++ later) := by
  induction later generalizing listed all with
  | nil => rwa [List.append_nil]
  | cons a later ih =>
    rw [List.append_cons]
    exact ih (h.concat a)

end ListsFirst

namespace RoundId

theorem number_lt_of_compare {a b : RoundId} (h : compare a b = .lt) : a.number < b.number :=
  Std.compare_eq_lt.1 h

end RoundId

section

variable {rounds rounds' : List RoundId}

theorem mem_ascendingRounds {round : RoundId} :
    round ∈ ascendingRounds rounds ↔ round ∈ rounds := by
  unfold ascendingRounds
  rw [SortedMap.mem_keys_iff]
  constructor
  · rintro ⟨value, hvalue⟩
    have hentry := SortedMap.mem_of_mem_ofList (SortedMap.get?_eq_some_iff.1 hvalue)
    obtain ⟨other, hother, heq⟩ := List.mem_map.1 hentry
    cases heq
    exact hother
  · intro hmem
    refine ⟨(), (SortedMap.get?_ofList_iff fun a _ b _ _ => rfl).2 ?_⟩
    exact List.mem_map.2 ⟨round, hmem, rfl⟩

theorem pairwise_ascendingRounds (rounds : List RoundId) :
    (ascendingRounds rounds).Pairwise fun a b => a.number < b.number :=
  List.pairwise_map.2 ((SortedMap.ofList _).ascending.imp RoundId.number_lt_of_compare)

/-- There is one way of listing rounds in ascending order. -/
theorem eq_of_ascending (h : rounds.Pairwise fun a b => a.number < b.number)
    (h' : rounds'.Pairwise fun a b => a.number < b.number)
    (hmem : ∀ round, round ∈ rounds ↔ round ∈ rounds') : rounds = rounds' := by
  have hnodup : ∀ {rounds : List RoundId}, rounds.Pairwise (fun a b => a.number < b.number) →
      rounds.Nodup := fun h => h.imp fun {a b} hlt (heq : a = b) =>
    UInt32.lt_irrefl b.number (heq ▸ hlt)
  have hperm : rounds.Perm rounds' := (List.perm_ext_iff_of_nodup (hnodup h) (hnodup h')).2 hmem
  exact hperm.eq_of_pairwise (fun a b _ _ hab hba => absurd hba (UInt32.lt_asymm hab)) h h'

theorem ascendingRounds_congr (h : ∀ round, round ∈ rounds ↔ round ∈ rounds') :
    ascendingRounds rounds = ascendingRounds rounds' := by
  refine eq_of_ascending (pairwise_ascendingRounds _) (pairwise_ascendingRounds _) fun round => ?_
  rw [mem_ascendingRounds, mem_ascendingRounds, h]

/-- Equal rounds stand side by side once they are sorted, so it is enough to drop a round that
    repeats the one before it. -/
theorem ascendingRounds_eq_destutter (rounds : List RoundId) :
    ascendingRounds rounds =
      (rounds.mergeSort fun a b => a.number ≤ b.number).destutter (· ≠ ·) := by
  have hsorted : (rounds.mergeSort fun a b => a.number ≤ b.number).Pairwise
      fun a b => a.number ≤ b.number := by
    refine (List.pairwise_mergeSort ?_ ?_ rounds).imp of_decide_eq_true
    · intro a b c hab hbc
      exact decide_eq_true (UInt32.le_trans (of_decide_eq_true hab) (of_decide_eq_true hbc))
    · intro a b
      simpa using UInt32.le_total a.number b.number
  have hantisymm : Std.Antisymm fun a b : RoundId => a.number ≤ b.number :=
    ⟨fun a b hab hba => congrArg RoundId.mk (UInt32.le_antisymm hab hba)⟩
  rw [hsorted.destutter_eq_dedup]
  refine eq_of_ascending (pairwise_ascendingRounds rounds) ?_ fun round => ?_
  · have hle := hsorted.sublist (List.dedup_sublist _)
    refine (hle.and (List.nodup_dedup _)).imp fun {a b} h => ?_
    exact UInt32.lt_of_le_of_ne h.1 fun heq => h.2 (congrArg RoundId.mk heq)
  · rw [mem_ascendingRounds, List.mem_dedup, (List.mergeSort_perm rounds _).mem_iff]

end

namespace Page

/-- A row or an element of the page belongs to a participant. -/
inductive TagsPlayer (page : Page) (player : ParticipantId) : Prop where
  | row {table : Table} {row : Row} (htable : table ∈ page.tables) (hrow : row ∈ table.rows)
      (htag : row.player = some player)
  | element {element : Element} (helement : element ∈ page.elements)
      (htag : element.player = some player)

/-- A round header, a column, a row or an element of the page belongs to a round. -/
inductive TagsRound (page : Page) (round : RoundId) : Prop where
  | group {table : Table} {group : GroupHeader} (htable : table ∈ page.tables)
      (hgroup : group ∈ table.groups) (htag : group.round = round)
  | column {table : Table} {column : Column} (htable : table ∈ page.tables)
      (hcolumn : column ∈ table.columns) (htag : column.round = some round)
  | row {table : Table} {row : Row} (htable : table ∈ page.tables) (hrow : row ∈ table.rows)
      (htag : row.round = some round)
  | element {element : Element} (helement : element ∈ page.elements)
      (htag : element.round = some round)

variable {page page' : Page} {player : ParticipantId} {round : RoundId}

theorem mem_playerTags_iff : player ∈ page.playerTags ↔ page.TagsPlayer player := by
  unfold playerTags
  rw [List.mem_append, List.mem_flatMap, List.mem_filterMap]
  constructor
  · rintro (⟨table, htable, hrow⟩ | ⟨element, helement, htag⟩)
    · obtain ⟨row, hrow, htag⟩ := List.mem_filterMap.1 hrow
      exact .row htable hrow htag
    · exact .element helement htag
  · rintro (⟨htable, hrow, htag⟩ | ⟨helement, htag⟩)
    · exact .inl ⟨_, htable, List.mem_filterMap.2 ⟨_, hrow, htag⟩⟩
    · exact .inr ⟨_, helement, htag⟩

theorem mem_roundTags_iff : round ∈ page.roundTags ↔ page.TagsRound round := by
  unfold roundTags
  rw [List.mem_append, List.mem_flatMap, List.mem_filterMap]
  constructor
  · rintro (⟨table, htable, htags⟩ | ⟨element, helement, htag⟩)
    · rw [Table.roundTags, List.mem_append, List.mem_append] at htags
      rcases htags with (hgroup | hcolumn) | hrow
      · obtain ⟨group, hgroup, htag⟩ := List.mem_map.1 hgroup
        exact .group htable hgroup htag
      · obtain ⟨column, hcolumn, htag⟩ := List.mem_filterMap.1 hcolumn
        exact .column htable hcolumn htag
      · obtain ⟨row, hrow, htag⟩ := List.mem_filterMap.1 hrow
        exact .row htable hrow htag
    · exact .element helement htag
  · intro h
    cases h with
    | group htable hgroup htag =>
      refine .inl ⟨_, htable, List.mem_append_left _ (List.mem_append_left _ ?_)⟩
      exact List.mem_map.2 ⟨_, hgroup, htag⟩
    | column htable hcolumn htag =>
      refine .inl ⟨_, htable, List.mem_append_left _ (List.mem_append_right _ ?_)⟩
      exact List.mem_filterMap.2 ⟨_, hcolumn, htag⟩
    | row htable hrow htag =>
      refine .inl ⟨_, htable, List.mem_append_right _ ?_⟩
      exact List.mem_filterMap.2 ⟨_, hrow, htag⟩
    | element helement htag => exact .inr ⟨_, helement, htag⟩

/-- The participants of a page are its player tags, those of the rows first, as they first come
    up. -/
theorem listsFirst_participants (page : Page) : ListsFirst page.participants page.playerTags :=
  ListsFirst.foldl ⟨List.nodup_nil, fun _ => Iff.rfl, .nil⟩ page.playerTags

theorem mem_participants_iff : player ∈ page.participants ↔ page.TagsPlayer player := by
  rw [page.listsFirst_participants.mem_iff, mem_playerTags_iff]

theorem pairwise_rounds (page : Page) : page.rounds.Pairwise fun a b => a.number < b.number :=
  pairwise_ascendingRounds page.roundTags

theorem mem_rounds_iff : round ∈ page.rounds ↔ page.TagsRound round := by
  unfold rounds
  rw [mem_ascendingRounds, mem_roundTags_iff]

theorem participants_perm (h : ∀ player, page'.TagsPlayer player ↔ page.TagsPlayer player) :
    page'.participants.Perm page.participants := by
  rw [List.perm_ext_iff_of_nodup page'.listsFirst_participants.nodup
    page.listsFirst_participants.nodup]
  intro player
  rw [mem_participants_iff, mem_participants_iff, h]

theorem rounds_eq (h : ∀ round, page'.TagsRound round ↔ page.TagsRound round) :
    page'.rounds = page.rounds := by
  refine ascendingRounds_congr fun round => ?_
  rw [mem_roundTags_iff, mem_roundTags_iff, h]

end Page

end Scoreboard
