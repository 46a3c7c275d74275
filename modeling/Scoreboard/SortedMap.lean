/-!
# Maps in key order

A finite map as the list of its entries in ascending key order. Two maps with the same entries are
the same map, whatever the order in which the entries came in.

## Main definitions

- `SortedMap` — the map
- `SortedMap.insert` — a map with one entry added or replaced
- `SortedMap.get?` — the value of a key
- `SortedMap.ofList` — the map of a list of entries, a later one replacing an earlier one
-/

namespace Scoreboard

universe u v

/-- Adds an entry to a list in ascending key order, replacing the one of the same key. -/
def insertEntry {κ : Type u} {α : Type v} [Ord κ] (key : κ) (value : α) :
    List (κ × α) → List (κ × α)
  | [] => [(key, value)]
  | entry :: rest =>
    match compare key entry.1 with
    | .lt => (key, value) :: entry :: rest
    | .eq => (key, value) :: rest
    | .gt => entry :: insertEntry key value rest

/-- The entries are in ascending order of their keys, so no key comes twice. -/
def Ascending {κ : Type u} {α : Type v} [Ord κ] (entries : List (κ × α)) : Prop :=
  entries.Pairwise fun a b => compare a.1 b.1 = .lt

section

variable {κ : Type u} {α : Type v} [Ord κ]

/-- Inserting adds nothing but the entry. -/
theorem mem_of_mem_insertEntry {key : κ} {value : α} {entries : List (κ × α)} {entry : κ × α}
    (h : entry ∈ insertEntry key value entries) : entry = (key, value) ∨ entry ∈ entries := by
  induction entries with
  | nil => exact .inl (by simpa [insertEntry] using h)
  | cons head rest ih =>
    unfold insertEntry at h
    split at h <;> simp only [List.mem_cons] at h ⊢
    · exact h
    · exact h.imp_right .inr
    · rcases h with rfl | h
      · exact .inr (.inl rfl)
      · exact (ih h).imp_right .inr

/-- Inserting keeps the order of the keys. -/
theorem Ascending.insertEntry [Std.TransOrd κ] {entries : List (κ × α)} (h : Ascending entries)
    (key : κ) (value : α) : Ascending (insertEntry key value entries) := by
  induction entries with
  | nil => exact List.pairwise_singleton ..
  | cons head rest ih =>
    obtain ⟨hhead, hrest⟩ := List.pairwise_cons.1 h
    unfold Scoreboard.insertEntry
    split
    · next hlt =>
      refine List.pairwise_cons.2 ⟨fun entry hentry => ?_, h⟩
      rcases List.mem_cons.1 hentry with rfl | hentry
      · exact hlt
      · exact Std.TransCmp.lt_trans hlt (hhead entry hentry)
    · next heq =>
      exact List.pairwise_cons.2
        ⟨fun entry hentry => Std.TransCmp.lt_of_eq_of_lt heq (hhead entry hentry), hrest⟩
    · next hgt =>
      refine List.pairwise_cons.2 ⟨fun entry hentry => ?_, ih hrest⟩
      rcases mem_of_mem_insertEntry hentry with rfl | hentry
      · exact Std.OrientedCmp.gt_iff_lt.1 hgt
      · exact hhead entry hentry

end

/-- A finite map whose entries are kept in ascending key order. -/
structure SortedMap (κ : Type u) (α : Type v) [Ord κ] where
  entries : List (κ × α)
  /-- They are in ascending key order. -/
  ascending : Ascending entries

namespace SortedMap

variable {κ : Type u} {α : Type v} [Ord κ]

/-- Two maps with the same entries are equal. -/
@[ext] theorem ext {m n : SortedMap κ α} (h : m.entries = n.entries) : m = n := by
  cases m; cases n; cases h; rfl

/-- The map without entries. -/
def empty : SortedMap κ α := ⟨[], List.Pairwise.nil⟩

instance : EmptyCollection (SortedMap κ α) := ⟨empty⟩

instance : Inhabited (SortedMap κ α) := ⟨empty⟩

instance [DecidableEq κ] [DecidableEq α] : DecidableEq (SortedMap κ α) := fun m n =>
  decidable_of_iff (m.entries = n.entries) ⟨ext, fun h => h ▸ rfl⟩

/-- The value of a key. -/
def get? (m : SortedMap κ α) (key : κ) : Option α :=
  (m.entries.find? fun entry => compare key entry.1 == .eq).map Prod.snd

/-- The keys in ascending order. -/
def keys (m : SortedMap κ α) : List κ :=
  m.entries.map Prod.fst

/-- The map with one entry added or replaced. -/
def insert [Std.TransOrd κ] (m : SortedMap κ α) (key : κ) (value : α) : SortedMap κ α :=
  ⟨insertEntry key value m.entries, m.ascending.insertEntry key value⟩

/-- The map of a list of entries, a later one replacing an earlier one of the same key. -/
def ofList [Std.TransOrd κ] (entries : List (κ × α)) : SortedMap κ α :=
  entries.foldl (fun m entry => m.insert entry.1 entry.2) empty

end SortedMap

end Scoreboard
