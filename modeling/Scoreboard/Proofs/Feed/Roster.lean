import Mathlib.Data.List.Basic
import Scoreboard.Feed.Roster
import Scoreboard.Proofs.SortedMap

/-!
# What a roster lists

A roster lists the things of some names, in the order in which the names first come up, and each of
them as it is found by its name.

## Main definitions

- `Roster.Indexed` — the index has the places of the things, by their names
- `Roster.Lists` — what a roster lists, told from names and a way to find things by name

## Main statements

- `Roster.Lists.modify` — a thing that is changed is found as it was changed
- `Roster.Lists.put` — a thing that is put in is found by its name, and comes last if it is new
-/

namespace Scoreboard.Roster

variable {α : Type} {nameOf : α → String} {roster : Roster α} {name : String} {place : Nat}
  {change : α → α} {item : α}

theorem put_eq_modify (hplace : roster.find? name = some place) (item : α) :
    roster.put name item = (roster.modify place fun _ => item, true) := by
  unfold Roster.put Roster.modify
  simp only [hplace, List.set_eq_modify]

/-- The index has the places of the things, by their names, and nothing else. -/
def Indexed (roster : Roster α) (nameOf : α → String) : Prop :=
  ∀ name place, roster.find? name = some place ↔ (roster.items.map nameOf)[place]? = some name

namespace Indexed

/-- The thing at the place of a name is the only one of the name. -/
theorem name_eq_iff (h : roster.Indexed nameOf) (hplace : roster.find? name = some place)
    {other : Nat} (hitem : roster.items[other]? = some item) :
    nameOf item = name ↔ place = other := by
  have hother : roster.find? name = some other ↔ nameOf item = name := by
    rw [h name other, List.getElem?_map, hitem, Option.map_some, Option.some_inj]
  rw [← hother, hplace, Option.some_inj]

/-- What is done at the place of a name is done to the things of the name. -/
theorem items_modify (h : roster.Indexed nameOf) (hplace : roster.find? name = some place) :
    (roster.modify place change).items =
      roster.items.map fun other => if nameOf other = name then change other else other := by
  unfold Roster.modify
  refine List.ext_getElem? fun other => ?_
  rw [List.getElem?_modify, List.getElem?_map]
  cases hitem : roster.items[other]? with
  | none => rfl
  | some item =>
    show some _ = some _
    simp only [h.name_eq_iff hplace hitem]

theorem modify (h : roster.Indexed nameOf) (hplace : roster.find? name = some place)
    (hchange : ∀ other, nameOf other = name → nameOf (change other) = name) :
    (roster.modify place change).Indexed nameOf := by
  have hnames : (roster.modify place change).items.map nameOf = roster.items.map nameOf := by
    rw [h.items_modify hplace, List.map_map]
    refine List.map_congr_left fun other _ => ?_
    show nameOf (if nameOf other = name then change other else other) = nameOf other
    split
    · next hname => rw [hchange other hname, hname]
    · rfl
  intro other
  rw [hnames]
  exact h other

theorem append (h : roster.Indexed nameOf) (hnone : roster.find? (nameOf item) = none) :
    Indexed ⟨roster.items ++ [item], roster.index.insert (nameOf item) roster.items.length⟩
      nameOf := by
  intro name place
  show SortedMap.get? _ name = some place ↔ ((roster.items ++ [item]).map nameOf)[place]? = _
  rw [SortedMap.get?_insert, List.map_append, List.getElem?_append, List.length_map]
  by_cases hlt : place < roster.items.length
  · rw [if_pos hlt, ← h name place]
    split
    · next hname =>
      rw [hname, hnone, Option.some_inj]
      exact ⟨fun heq => absurd heq (Nat.ne_of_gt hlt), nofun⟩
    · rfl
  · -- Past the things that were there, there is but the new one.
    have hold : roster.find? name ≠ some place := by
      intro hfind
      have hname := (h name place).1 hfind
      rw [List.getElem?_eq_none (by simpa using hlt)] at hname
      cases hname
    rw [if_neg hlt, List.map_singleton, List.getElem?_singleton]
    split
    · next hname =>
      rw [hname, Option.some_inj]
      split
      · next hzero => exact ⟨fun _ => rfl, fun _ => by omega⟩
      · next hzero => exact ⟨fun _ => by omega, nofun⟩
    · next hname =>
      refine ⟨fun hfind => absurd hfind hold, fun hlast => absurd ?_ hname⟩
      split at hlast
      · exact (Option.some_inj.1 hlast).symm
      · cases hlast

theorem find?_eq_none (h : roster.Indexed nameOf) (hnew : name ∉ roster.items.map nameOf) :
    roster.find? name = none := by
  cases hplace : roster.find? name with
  | none => rfl
  | some place => exact absurd (List.mem_of_getElem? ((h name place).1 hplace)) hnew

/-- A thing of a new name is put in at the end. -/
theorem put_of_new (h : roster.Indexed nameOf) (hnew : nameOf item ∉ roster.items.map nameOf) :
    (roster.put (nameOf item) item).1.items = roster.items ++ [item] ∧
      (roster.put (nameOf item) item).1.Indexed nameOf ∧
      (roster.put (nameOf item) item).2 = false := by
  have hnone := h.find?_eq_none hnew
  unfold Roster.put
  rw [hnone]
  exact ⟨rfl, h.append hnone, rfl⟩

end Indexed

/-- A roster lists the things that are found by some names, in the order in which the names first
    come up, and can find just these. -/
structure Lists (roster : Roster α) (nameOf : α → String) (names : List String)
    (lookup : String → Option α) : Prop where
  indexed : roster.Indexed nameOf
  items_eq : roster.items = names.eraseDups.filterMap lookup
  /-- What is found by a name has the name. -/
  name_eq : ∀ {name item}, lookup name = some item → nameOf item = name
  /-- Something is found by each of the names, and by no other. -/
  isSome_iff : ∀ name, (lookup name).isSome = true ↔ name ∈ names

namespace Lists

variable {names : List String} {lookup lookup' : String → Option α}

theorem empty : (∅ : Roster α).Lists nameOf [] fun _ => none where
  indexed _ _ := ⟨nofun, nofun⟩
  items_eq := rfl
  name_eq := nofun
  isSome_iff name := by simp

theorem mem_items_iff (h : roster.Lists nameOf names lookup) :
    item ∈ roster.items ↔ lookup (nameOf item) = some item := by
  rw [h.items_eq, List.mem_filterMap]
  constructor
  · rintro ⟨name, -, hitem⟩
    rwa [h.name_eq hitem]
  · intro hitem
    refine ⟨nameOf item, List.mem_eraseDups.2 ((h.isSome_iff _).1 ?_), hitem⟩
    rw [hitem, Option.isSome_some]

theorem getElem?_of_find? (h : roster.Lists nameOf names lookup)
    (hplace : roster.find? name = some place) : roster.items[place]? = lookup name := by
  have hname := (h.indexed name place).1 hplace
  rw [List.getElem?_map] at hname
  obtain ⟨item, hitem, rfl⟩ := Option.map_eq_some_iff.1 hname
  rw [hitem, h.mem_items_iff.1 (List.mem_of_getElem? hitem)]

theorem find?_eq_none_iff (h : roster.Lists nameOf names lookup) :
    roster.find? name = none ↔ lookup name = none := by
  cases hplace : roster.find? name with
  | none =>
    refine ⟨fun _ => ?_, fun _ => rfl⟩
    cases hitem : lookup name with
    | none => rfl
    | some item =>
      obtain rfl := h.name_eq hitem
      obtain ⟨place, hmem⟩ := List.mem_iff_getElem?.1 (h.mem_items_iff.2 hitem)
      have hfind := (h.indexed (nameOf item) place).2 (by rw [List.getElem?_map, hmem]; rfl)
      rw [hplace] at hfind
      cases hfind
  | some place =>
    refine ⟨nofun, fun hnone => ?_⟩
    have hname := (h.indexed name place).1 hplace
    rw [List.getElem?_map, h.getElem?_of_find? hplace, hnone] at hname
    cases hname

theorem modify (h : roster.Lists nameOf names lookup) (hplace : roster.find? name = some place)
    (hlookup : ∀ other, lookup' other =
      if other = name then (lookup other).map change else lookup other)
    (hchange : ∀ other, nameOf other = name → nameOf (change other) = name) :
    (roster.modify place change).Lists nameOf names lookup' where
  indexed := h.indexed.modify hplace hchange
  items_eq := by
    rw [h.indexed.items_modify hplace, h.items_eq, List.map_filterMap]
    refine List.filterMap_congr fun other _ => ?_
    rw [hlookup]
    cases hitem : lookup other with
    | none => simp
    | some item =>
      rw [Option.map_some, h.name_eq hitem]
      split <;> rfl
  name_eq := by
    intro other item hitem
    rw [hlookup] at hitem
    split at hitem
    · next heq =>
      obtain ⟨old, hold, rfl⟩ := Option.map_eq_some_iff.1 hitem
      rw [heq, hchange old (heq ▸ h.name_eq hold)]
    · exact h.name_eq hitem
  isSome_iff other := by
    rw [hlookup, ← h.isSome_iff]
    split
    · rw [Option.isSome_map]
    · rfl

theorem append (h : roster.Lists nameOf names lookup)
    (hnone : roster.find? (nameOf item) = none)
    (hlookup : ∀ other, lookup' other = if other = nameOf item then some item else lookup other) :
    Lists ⟨roster.items ++ [item], roster.index.insert (nameOf item) roster.items.length⟩ nameOf
      (names ++ [nameOf item]) lookup' := by
  have hnew : nameOf item ∉ names := by
    rw [← h.isSome_iff, h.find?_eq_none_iff.1 hnone]
    exact Bool.false_ne_true
  refine ⟨h.indexed.append hnone, ?_, ?_, ?_⟩
  · have hdups : (names ++ [nameOf item]).eraseDups = names.eraseDups ++ [nameOf item] := by
      rw [List.eraseDups_append]
      simp [List.removeAll, hnew, List.eraseDups_cons]
    have hold : names.eraseDups.filterMap lookup' = names.eraseDups.filterMap lookup := by
      refine List.filterMap_congr fun other hother => ?_
      rw [hlookup, if_neg]
      rintro rfl
      exact hnew (List.mem_eraseDups.1 hother)
    show roster.items ++ [item] = _
    rw [hdups, List.filterMap_append, hold, h.items_eq]
    simp [hlookup]
  · intro other found hfound
    rw [hlookup] at hfound
    split at hfound
    · next heq => rw [← Option.some_inj.1 hfound, heq]
    · exact h.name_eq hfound
  · intro other
    rw [hlookup, List.mem_append, List.mem_singleton, ← h.isSome_iff]
    split
    · next heq => simp [heq]
    · next hne => simp [hne]

/-- A thing that is put in is found by its name from then on, in place of the one that was found
    before, and comes last if there was none. -/
theorem put (h : roster.Lists nameOf names lookup) (item : α)
    (hlookup : ∀ other, lookup' other = if other = nameOf item then some item else lookup other) :
    (roster.put (nameOf item) item).1.Lists nameOf (names ++ [nameOf item]) lookup' ∧
      (roster.put (nameOf item) item).2 = (lookup (nameOf item)).isSome := by
  cases hplace : roster.find? (nameOf item) with
  | none =>
    unfold Roster.put
    rw [hplace, h.find?_eq_none_iff.1 hplace]
    exact ⟨h.append hplace hlookup, rfl⟩
  | some place =>
    have hsome : (lookup (nameOf item)).isSome = true := by
      rw [Option.isSome_iff_ne_none, ne_eq, ← h.find?_eq_none_iff, hplace]
      exact Option.some_ne_none place
    have hmodify : (roster.modify place fun _ => item).Lists nameOf names lookup' := by
      refine h.modify hplace (fun other => ?_) fun _ _ => rfl
      rw [hlookup]
      split
      · next heq =>
        rw [heq, ← Option.some_get hsome]
        rfl
      · rfl
    have hdups : (names ++ [nameOf item]).eraseDups = names.eraseDups := by
      rw [List.eraseDups_append]
      simp [List.removeAll, (h.isSome_iff _).1 hsome]
    rw [put_eq_modify hplace, hsome]
    refine ⟨⟨hmodify.indexed, ?_, hmodify.name_eq, ?_⟩, rfl⟩
    · rw [hdups]
      exact hmodify.items_eq
    · intro other
      rw [hmodify.isSome_iff, List.mem_append, List.mem_singleton]
      exact ⟨.inl, Or.rec id fun heq => heq ▸ (h.isSome_iff _).1 hsome⟩

end Lists

end Scoreboard.Roster
