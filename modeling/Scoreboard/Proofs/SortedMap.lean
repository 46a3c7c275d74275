import Scoreboard.SortedMap

/-!
# Looking up in maps

## Main definitions

- `lookUp` — the value of a key in a list of entries
- `LastEntry` — the last entry of a key in a list of entries

## Main statements

- `SortedMap.get?_ofList_map` — a map of entries with other values
- `SortedMap.entries_ofList_of_ascending` — entries in ascending order are those of their map
- `SortedMap.get?_insert` — looking up after an entry was added or replaced
- `SortedMap.get?_eq_some_iff` — looking up finds the entries, and nothing else
- `SortedMap.eq_of_get?` — two maps in which all keys have the same values are equal
- `SortedMap.get?_ofList_of_lastEntry` — in a map of entries the last entry of a key counts
- `SortedMap.get?_ofList_iff` — a map of entries that agree holds all of them
-/

namespace Scoreboard

universe u v w

variable {κ : Type u} {α : Type v} [Ord κ]

/-- The value of a key in a list of entries. -/
def lookUp (key : κ) (entries : List (κ × α)) : Option α :=
  (entries.find? fun entry => compare key entry.1 == .eq).map Prod.snd

theorem lookUp_cons [Std.LawfulEqOrd κ] [DecidableEq κ] (key : κ) (entry : κ × α)
    (rest : List (κ × α)) :
    lookUp key (entry :: rest) = if key = entry.1 then some entry.2 else lookUp key rest := by
  unfold lookUp
  rw [List.find?_cons]
  by_cases h : key = entry.1
  · simp [h]
  · have hc : (compare key entry.1 == .eq) = false := by
      rw [Bool.eq_false_iff]
      exact fun hc => h (Std.compare_beq_iff_eq.1 hc)
    simp [hc, h]

theorem lookUp_insertEntry [Std.LawfulEqOrd κ] [DecidableEq κ] (key key' : κ) (value : α)
    (entries : List (κ × α)) :
    lookUp key' (insertEntry key value entries) =
      if key' = key then some value else lookUp key' entries := by
  induction entries with
  | nil => rw [insertEntry, lookUp_cons]
  | cons head rest ih =>
    unfold insertEntry
    split
    · rw [lookUp_cons]
    · next heq =>
      have hkey : key = head.1 := Std.LawfulEqOrd.eq_of_compare heq
      rw [lookUp_cons, lookUp_cons, ← hkey]
      by_cases h : key' = key
      · simp only [h, if_true]
      · simp only [h, if_false]
    · next hgt =>
      have hne : key ≠ head.1 := by
        intro heq
        rw [Std.compare_eq_iff_eq.2 heq] at hgt
        cases hgt
      rw [lookUp_cons, lookUp_cons, ih]
      by_cases h : key' = head.1
      · have hother : key' ≠ key := fun hc => hne (hc.symm.trans h)
        simp only [h, if_true, if_neg (h ▸ hother)]
      · simp only [h, if_false]

/-- Looking up finds the entries, since no key comes twice. -/
theorem lookUp_eq_some_iff [Std.TransOrd κ] [Std.LawfulEqOrd κ] [DecidableEq κ]
    {entries : List (κ × α)} (h : Ascending entries) {key : κ} {value : α} :
    lookUp key entries = some value ↔ (key, value) ∈ entries := by
  induction entries with
  | nil => simp [lookUp]
  | cons head rest ih =>
    obtain ⟨hhead, hrest⟩ := List.pairwise_cons.1 h
    rw [lookUp_cons, List.mem_cons]
    by_cases hkey : key = head.1
    · rw [if_pos hkey, Option.some_inj]
      constructor
      · rintro rfl
        exact .inl (Prod.ext hkey rfl)
      · rintro (heq | hmem)
        · exact congrArg Prod.snd heq.symm
        · have hlt := hhead _ hmem
          rw [← hkey, Std.ReflOrd.compare_self] at hlt
          cases hlt
    · rw [if_neg hkey, ih hrest]
      constructor
      · exact .inr
      · rintro (heq | hmem)
        · exact absurd (congrArg Prod.fst heq) hkey
        · exact hmem

/-- Entries are inserted by their keys, whatever their values. -/
theorem insertEntry_map {β : Type w} (f : α → β) (key : κ) (value : α) (entries : List (κ × α)) :
    insertEntry key (f value) (entries.map fun entry => (entry.1, f entry.2)) =
      (insertEntry key value entries).map fun entry => (entry.1, f entry.2) := by
  induction entries with
  | nil => rfl
  | cons entry rest ih =>
    simp only [List.map_cons, insertEntry]
    cases compare key entry.1 with
    | lt => rfl
    | eq => rfl
    | gt => rw [List.map_cons, ih]

theorem foldl_insertEntry_map {β : Type w} (f : α → β) (inserted entries : List (κ × α)) :
    entries.foldl (fun inserted entry => insertEntry entry.1 (f entry.2) inserted)
        (inserted.map fun entry => (entry.1, f entry.2)) =
      (entries.foldl (fun inserted entry => insertEntry entry.1 entry.2 inserted) inserted).map
        fun entry => (entry.1, f entry.2) := by
  induction entries generalizing inserted with
  | nil => rfl
  | cons entry rest ih => rw [List.foldl_cons, List.foldl_cons, insertEntry_map, ih]

section

variable [Std.TransOrd κ]

theorem insertEntry_of_forall_lt {key : κ} {value : α} {entries : List (κ × α)}
    (h : ∀ entry ∈ entries, compare entry.1 key = .lt) :
    insertEntry key value entries = entries ++ [(key, value)] := by
  induction entries with
  | nil => rfl
  | cons entry rest ih =>
    obtain ⟨hentry, hrest⟩ := List.forall_mem_cons.1 h
    simp only [insertEntry, Std.OrientedCmp.gt_of_lt hentry, ih hrest, List.cons_append]

theorem foldl_insertEntry_of_ascending {entries later : List (κ × α)}
    (h : Ascending (entries ++ later)) :
    later.foldl (fun entries entry => insertEntry entry.1 entry.2 entries) entries =
      entries ++ later := by
  induction later generalizing entries with
  | nil => rw [List.foldl_nil, List.append_nil]
  | cons entry rest ih =>
    have hlast : insertEntry entry.1 entry.2 entries = entries ++ [entry] :=
      insertEntry_of_forall_lt fun other hother =>
        (List.pairwise_append.1 h).2.2 other hother entry List.mem_cons_self
    rw [List.append_cons] at h ⊢
    rw [List.foldl_cons, hlast, ih h]

/-- The entries of a map come from inserting those it was made of one by one. -/
theorem SortedMap.entries_ofList (entries : List (κ × α)) :
    (ofList entries).entries =
      entries.foldl (fun entries entry => insertEntry entry.1 entry.2 entries) [] :=
  (List.foldl_hom SortedMap.entries fun _ _ => rfl).symm

theorem SortedMap.entries_ofList_map {β : Type w} (f : α → β) (entries : List (κ × α)) :
    (ofList (entries.map fun entry => (entry.1, f entry.2))).entries =
      (ofList entries).entries.map fun entry => (entry.1, f entry.2) := by
  rw [entries_ofList, entries_ofList, List.foldl_map]
  exact foldl_insertEntry_map f [] entries

theorem SortedMap.keys_ofList_map {β : Type w} (f : α → β) (entries : List (κ × α)) :
    (ofList (entries.map fun entry => (entry.1, f entry.2))).keys = (ofList entries).keys := by
  unfold keys
  rw [entries_ofList_map, List.map_map]
  rfl

/-- A map of entries with other values has these in place of the old ones. -/
theorem SortedMap.get?_ofList_map {β : Type w} (f : α → β) (entries : List (κ × α)) (key : κ) :
    (ofList (entries.map fun entry => (entry.1, f entry.2))).get? key =
      ((ofList entries).get? key).map f := by
  unfold get?
  rw [entries_ofList_map, List.find?_map, Option.map_map, Option.map_map]
  rfl

theorem SortedMap.entries_ofList_of_ascending {entries : List (κ × α)} (h : Ascending entries) :
    (ofList entries).entries = entries :=
  (entries_ofList entries).trans (foldl_insertEntry_of_ascending (List.nil_append entries ▸ h))

omit [Std.TransOrd κ] in
theorem mem_of_mem_foldl_insertEntry {entries later : List (κ × α)} {entry : κ × α}
    (h : entry ∈
      later.foldl (fun entries entry => insertEntry entry.1 entry.2 entries) entries) :
    entry ∈ entries ∨ entry ∈ later := by
  induction later generalizing entries with
  | nil => exact .inl h
  | cons other rest ih =>
    rcases ih h with hmem | hmem
    · rcases mem_of_mem_insertEntry hmem with rfl | hold
      · exact .inr List.mem_cons_self
      · exact .inl hold
    · exact .inr (List.mem_cons_of_mem _ hmem)

/-- A map of entries has no others. -/
theorem SortedMap.mem_of_mem_ofList {entries : List (κ × α)} {entry : κ × α}
    (h : entry ∈ (ofList entries).entries) : entry ∈ entries := by
  rw [entries_ofList] at h
  exact (mem_of_mem_foldl_insertEntry h).resolve_left List.not_mem_nil

end

/-- The last entry of a key in a list of entries. -/
def LastEntry {κ : Type u} {α : Type v} (entries : List (κ × α)) (key : κ) (value : α) : Prop :=
  ∃ front back, entries = front ++ (key, value) :: back ∧ ∀ entry ∈ back, entry.1 ≠ key

namespace LastEntry

variable {κ : Type u} {α : Type v} {entries more : List (κ × α)} {key : κ} {value : α}

theorem mem (h : LastEntry entries key value) : (key, value) ∈ entries := by
  obtain ⟨front, back, rfl, -⟩ := h
  exact List.mem_append_right _ List.mem_cons_self

theorem prepend (h : LastEntry entries key value) (more : List (κ × α)) :
    LastEntry (more ++ entries) key value := by
  obtain ⟨front, back, rfl, hback⟩ := h
  exact ⟨more ++ front, back, (List.append_assoc ..).symm, hback⟩

theorem append (h : LastEntry entries key value) (hmore : ∀ entry ∈ more, entry.1 ≠ key) :
    LastEntry (entries ++ more) key value := by
  obtain ⟨front, back, rfl, hback⟩ := h
  refine ⟨front, back ++ more, by rw [List.append_assoc, List.cons_append], ?_⟩
  exact List.forall_mem_append.2 ⟨hback, hmore⟩

theorem exists_or (entries : List (κ × α)) (key : κ) :
    (∃ value, LastEntry entries key value) ∨ ∀ entry ∈ entries, entry.1 ≠ key := by
  induction entries with
  | nil => exact .inr fun _ hmem => absurd hmem List.not_mem_nil
  | cons entry rest ih =>
    rcases ih with ⟨value, hlast⟩ | hnone
    · exact .inl ⟨value, hlast.prepend [entry]⟩
    · by_cases hkey : entry.1 = key
      · subst hkey
        exact .inl ⟨entry.2, [], rest, rfl, hnone⟩
      · exact .inr (List.forall_mem_cons.2 ⟨hkey, hnone⟩)

/-- Where all entries of a key agree, the last one is any of them. -/
theorem of_mem (hmem : (key, value) ∈ entries)
    (hsame : ∀ entry ∈ entries, entry.1 = key → entry.2 = value) :
    LastEntry entries key value := by
  rcases exists_or entries key with ⟨other, hlast⟩ | hnone
  · obtain rfl : other = value := hsame _ hlast.mem rfl
    exact hlast
  · exact absurd rfl (hnone _ hmem)

/-- The last entry of a key stands in the last part that has one. -/
theorem flatMap {β : Type w} {parts front back : List β} {part : β} {entriesOf : β → List (κ × α)}
    (h : LastEntry (entriesOf part) key value) (hparts : parts = front ++ part :: back)
    (hback : ∀ other ∈ back, ∀ entry ∈ entriesOf other, entry.1 ≠ key) :
    LastEntry (parts.flatMap entriesOf) key value := by
  rw [hparts, List.flatMap_append, List.flatMap_cons]
  refine (h.append fun entry hentry => ?_).prepend _
  obtain ⟨other, hother, hmem⟩ := List.mem_flatMap.1 hentry
  exact hback other hother entry hmem

end LastEntry

namespace SortedMap

variable [Std.TransOrd κ] [Std.LawfulEqOrd κ] [DecidableEq κ]

theorem get?_insert (m : SortedMap κ α) (key key' : κ) (value : α) :
    (m.insert key value).get? key' = if key' = key then some value else m.get? key' :=
  lookUp_insertEntry key key' value m.entries

/-- Looking up finds the entries, and nothing else. -/
theorem get?_eq_some_iff {m : SortedMap κ α} {key : κ} {value : α} :
    m.get? key = some value ↔ (key, value) ∈ m.entries :=
  lookUp_eq_some_iff m.ascending

theorem mem_keys_iff {m : SortedMap κ α} {key : κ} :
    key ∈ m.keys ↔ ∃ value, m.get? key = some value := by
  unfold keys
  rw [List.mem_map]
  constructor
  · rintro ⟨⟨key, value⟩, hmem, rfl⟩
    exact ⟨value, get?_eq_some_iff.2 hmem⟩
  · rintro ⟨value, hvalue⟩
    exact ⟨(key, value), get?_eq_some_iff.1 hvalue, rfl⟩

omit [Std.TransOrd κ] [DecidableEq κ] in
theorem nodup_keys (m : SortedMap κ α) : m.keys.Nodup := by
  refine List.Pairwise.map _ ?_ m.ascending
  rintro a b hlt heq
  rw [heq, Std.ReflOrd.compare_self] at hlt
  cases hlt

/-- Two maps in which all keys have the same values are equal. -/
theorem eq_of_get? {m n : SortedMap κ α} (h : ∀ key, m.get? key = n.get? key) : m = n := by
  have hmem (entry : κ × α) : entry ∈ m.entries ↔ entry ∈ n.entries := by
    obtain ⟨key, value⟩ := entry
    rw [← get?_eq_some_iff, ← get?_eq_some_iff, h]
  have hnodup (o : SortedMap κ α) : o.entries.Nodup :=
    (List.pairwise_map.1 o.nodup_keys).imp fun hne heq => hne (congrArg Prod.fst heq)
  have hperm : m.entries.Perm n.entries :=
    (List.perm_ext_iff_of_nodup (hnodup m) (hnodup n)).2 hmem
  refine SortedMap.ext (hperm.eq_of_pairwise ?_ m.ascending n.ascending)
  intro a b _ _ hab hba
  -- No two keys are before each other.
  rw [Std.OrientedCmp.gt_of_lt hab] at hba
  cases hba

omit [Std.TransOrd κ] [Std.LawfulEqOrd κ] [DecidableEq κ] in
theorem get?_empty (key : κ) : (empty : SortedMap κ α).get? key = none :=
  rfl

theorem get?_foldl_insert_of_ne {key : κ} {entries : List (κ × α)}
    (hne : ∀ entry ∈ entries, entry.1 ≠ key) (m : SortedMap κ α) :
    (entries.foldl (fun m entry => m.insert entry.1 entry.2) m).get? key = m.get? key := by
  induction entries generalizing m with
  | nil => rfl
  | cons entry rest ih =>
    obtain ⟨hentry, hrest⟩ := List.forall_mem_cons.1 hne
    rw [List.foldl_cons, ih hrest, get?_insert, if_neg hentry.symm]

/-- In a map of entries the last entry of a key counts. -/
theorem get?_ofList_of_lastEntry {entries : List (κ × α)} {key : κ} {value : α}
    (h : LastEntry entries key value) : (ofList entries).get? key = some value := by
  obtain ⟨front, back, rfl, hback⟩ := h
  unfold ofList
  rw [List.foldl_append, List.foldl_cons, get?_foldl_insert_of_ne hback, get?_insert, if_pos rfl]

/-- A map of entries that agree wherever their keys do holds all of them, and nothing else. -/
theorem get?_ofList_iff {entries : List (κ × α)}
    (agree : ∀ a ∈ entries, ∀ b ∈ entries, a.1 = b.1 → a.2 = b.2) {key : κ} {value : α} :
    (ofList entries).get? key = some value ↔ (key, value) ∈ entries := by
  rcases LastEntry.exists_or entries key with ⟨other, hlast⟩ | hnone
  · rw [get?_ofList_of_lastEntry hlast, Option.some_inj]
    constructor
    · rintro rfl
      exact hlast.mem
    · intro hmem
      exact agree _ hlast.mem _ hmem rfl
  · have hget : (ofList entries).get? key = none :=
      (get?_foldl_insert_of_ne hnone empty).trans (get?_empty key)
    rw [hget]
    constructor
    · intro hsome
      cases hsome
    · intro hmem
      exact absurd rfl (hnone _ hmem)

end SortedMap

end Scoreboard
