import Scoreboard.Proofs.Feed.Account
import Scoreboard.Proofs.Feed.Refusal

/-!
# Indexes of a draft

A draft keeps its tables and its elements in order, and finds them by name through an index of their
places. Whatever records come, refused ones among them, the index never misses and never misleads:
what is found at the place of a name has the name.

## Main definitions

- `Roster.Exact` — the index knows the names of the things and the one place of each
- `Draft.handle`, `Draft.handled` — the draft after records that are taken in place
- `Entry.placeTables`, `Entry.placeElements` — what an entry does, told by names alone

## Main statements

- `Draft.handled_exact` — the indexes are exact after any records, and so a further record changes
  just what has the name that it asks for
-/

namespace Scoreboard

namespace Roster

variable {α : Type} {nameOf : α → String} {roster : Roster α}

/-- The index has the names of all things and no other, and leads from each name to the one place
    where a thing of the name is. -/
structure Exact (roster : Roster α) (nameOf : α → String) : Prop where
  mem_keys_iff : ∀ name, name ∈ roster.index.keys ↔ ∃ item ∈ roster.items, nameOf item = name
  find?_eq_some_iff : ∀ name place, roster.find? name = some place ↔
    ∃ h : place < roster.items.length, nameOf roster.items[place] = name

theorem Indexed.exact (h : roster.Indexed nameOf) : roster.Exact nameOf where
  mem_keys_iff name := by
    rw [SortedMap.mem_keys_iff, ← List.mem_map, List.mem_iff_getElem?]
    exact exists_congr fun place => h name place
  find?_eq_some_iff name place := by
    rw [h name place, List.getElem?_eq_some_iff]
    simp

/-- The things with one in the place of the thing of its name, or at the end. -/
def placeItem (nameOf : α → String) (items : List α) (item : α) : List α :=
  if items.any fun other => nameOf other = nameOf item then
    items.map fun other => if nameOf other = nameOf item then item else other
  else
    items ++ [item]

/-- Where a name is not found, there is nothing to change. -/
theorem Indexed.map_of_find?_eq_none (h : roster.Indexed nameOf) {name : String}
    (hnone : roster.find? name = none) (change : α → α) :
    roster.items.map (fun other => if nameOf other = name then change other else other) =
      roster.items := by
  refine (List.map_congr_left fun other hother => ?_).trans (List.map_id' roster.items)
  rw [if_neg]
  intro hname
  obtain ⟨place, hplace⟩ :=
    SortedMap.mem_keys_iff.1 ((h.exact.mem_keys_iff name).2 ⟨other, hother, hname⟩)
  exact absurd (hnone.symm.trans hplace) nofun

theorem Indexed.put (h : roster.Indexed nameOf) (item : α) :
    (roster.put (nameOf item) item).1.Indexed nameOf ∧
      (roster.put (nameOf item) item).1.items = placeItem nameOf roster.items item := by
  have hany : (roster.items.any fun other => nameOf other = nameOf item) = true ↔
      ∃ place, roster.find? (nameOf item) = some place := by
    rw [List.any_eq_true]
    simp only [decide_eq_true_eq]
    rw [← h.exact.mem_keys_iff, SortedMap.mem_keys_iff]
    rfl
  unfold placeItem
  cases hplace : roster.find? (nameOf item) with
  | none =>
    have hnone := h.append hplace
    rw [hplace] at hany
    rw [if_neg fun hmem => nomatch hany.1 hmem]
    unfold Roster.put
    rw [hplace]
    exact ⟨hnone, rfl⟩
  | some place =>
    rw [if_pos (hany.2 ⟨place, hplace⟩), put_eq_modify hplace]
    exact ⟨h.modify hplace fun _ _ => rfl, h.items_modify hplace⟩

end Roster

namespace Entry

/-- The tables with what an entry adds to them or changes, told by names alone. -/
def placeTables (tables : List Table) : Entry → List Table
  | table added => Roster.placeItem Table.id tables added
  | row record => tables.map fun table =>
      if table.id = record.tableId then { table with rows := placeRow table.rows record.row }
      else table
  | _ => tables

/-- The elements with what an entry adds to them or changes, told by names alone. -/
def placeElements (elements : List Element) : Entry → List Element
  | element added => Roster.placeItem Element.id elements added
  | _ => elements

end Entry

namespace Draft

/-- The draft after one more record that is taken in place. If the record is refused, the draft is
    what the record has left. -/
def handle (draft : Draft) (line : Nat) (record : Record) : Draft :=
  ((takeInPlace line record).outcome draft).2

/-- The draft after records, each from some line. -/
def handled (records : List (Nat × Record)) : Draft :=
  records.foldl (fun draft record => draft.handle record.1 record.2) {}

/-- What a record has to add to the draft: nothing if it has no data, if they do not fit, and ahead
    of the first page record. -/
def addition? (draft : Draft) (record : Record) : Option Entry :=
  (Entry.ofRecord? record).filter fun entry => draft.info.isSome || entry.page?.isSome

/-- The tables and the elements are where their indexes say. -/
structure Indexed (draft : Draft) : Prop where
  tables : draft.tables.Indexed Table.id
  elements : draft.elements.Indexed Element.id

theorem handle_eq (draft : Draft) (line : Nat) (record : Record) :
    draft.handle line record = (draft.addition? record).elim draft (draft.add line) := by
  have htake : draft.handle line record = (draft.take line record).toOption.getD draft := by
    unfold handle
    rw [outcome_takeInPlace]
    cases draft.take line record <;> rfl
  rw [htake, take_toOption, addition?]
  cases Entry.ofRecord? record with
  | none => rfl
  | some entry =>
    show draft.addIfPaged line entry = _
    unfold addIfPaged
    cases hpage : entry.page? with
    | some info => simp [Option.filter, hpage]
    | none =>
      cases draft.info with
      | some info => simp [Option.filter]
      | none => simp [Option.filter, hpage]

variable {draft : Draft}

/-- An entry is added to the tables and the elements by its name. -/
theorem Indexed.add (h : draft.Indexed) (line : Nat) (entry : Entry) :
    (draft.add line entry).Indexed ∧
      (draft.add line entry).tables.items = entry.placeTables draft.tables.items ∧
      (draft.add line entry).elements.items = entry.placeElements draft.elements.items := by
  cases entry with
  | page info => exact ⟨⟨h.tables, h.elements⟩, rfl, rfl⟩
  | table table =>
    obtain ⟨hindexed, hitems⟩ := h.tables.put table
    rw [Draft.add, putTable_eq]
    exact ⟨⟨hindexed, h.elements⟩, hitems, rfl⟩
  | row record =>
    rw [Draft.add]
    cases hplace : draft.tables.find? record.tableId with
    | none =>
      rw [putRow_of_none draft line hplace]
      exact ⟨⟨h.tables, h.elements⟩, (h.tables.map_of_find?_eq_none hplace _).symm, rfl⟩
    | some place =>
      rw [putRow_of_some draft line hplace]
      exact ⟨⟨h.tables.modify hplace fun _ hid => hid, h.elements⟩, h.tables.items_modify hplace,
        rfl⟩
  | element element =>
    obtain ⟨hindexed, hitems⟩ := h.elements.put element
    rw [Draft.add, putElement_eq]
    exact ⟨⟨h.tables, hindexed⟩, rfl, hitems⟩

theorem Indexed.handle (h : draft.Indexed) (line : Nat) (record : Record) :
    (draft.handle line record).Indexed := by
  rw [handle_eq]
  cases draft.addition? record with
  | none => exact h
  | some entry => exact (h.add line entry).1

theorem indexed_handled (records : List (Nat × Record)) : (handled records).Indexed := by
  have hfold : ∀ (records : List (Nat × Record)) (draft : Draft), draft.Indexed →
      (records.foldl (fun draft record => draft.handle record.1 record.2) draft).Indexed := by
    intro records
    induction records with
    | nil => exact fun _ h => h
    | cons record records ih => exact fun draft h => ih _ (h.handle record.1 record.2)
  exact hfold records {} ⟨Roster.Lists.empty.indexed, Roster.Lists.empty.indexed⟩

/-- After any records, refused ones among them, each index has just the names of the tables or of
    the elements, and leads from each name to the one place where it is. So a further record changes
    what has the name that it asks for, and nothing else. -/
theorem handled_exact (records : List (Nat × Record)) :
    (handled records).tables.Exact Table.id ∧ (handled records).elements.Exact Element.id ∧
      ∀ line record, ((handled records).handle line record).tables.items =
          ((handled records).addition? record).elim (handled records).tables.items
            (Entry.placeTables (handled records).tables.items) ∧
        ((handled records).handle line record).elements.items =
          ((handled records).addition? record).elim (handled records).elements.items
            (Entry.placeElements (handled records).elements.items) := by
  have h := indexed_handled records
  refine ⟨h.tables.exact, h.elements.exact, fun line record => ?_⟩
  rw [handle_eq]
  cases (handled records).addition? record with
  | none => exact ⟨rfl, rfl⟩
  | some entry => exact (h.add line entry).2

end Draft

end Scoreboard
