import Scoreboard.Json.Reader
import Scoreboard.Proofs.SortedMap

/-!
# Canonical values

What a reader can come up with: objects have their members in ascending order, and values are not
nested too deeply. Real numbers are left out.

## Main definitions

- `Json.normal` — a value with the members of its objects in ascending order
- `Json.Canonical` — a value as it is read

## Main statements

- `Json.canonical_array`, `Json.canonical_object` — a normal form is canonical if its parts are
-/

namespace Scoreboard.Json

mutual

/-- The value with the members of all its objects in ascending order of their names. -/
def normal : Json → Json
  | .array items => .array (normalItems items)
  | .object members => ofMembers (normalMembers members)
  | json => json

/-- The items of a list, made normal. -/
def normalItems : List Json → List Json
  | [] => []
  | item :: items => item.normal :: normalItems items

/-- The members of an object, made normal. -/
def normalMembers : List (String × Json) → List (String × Json)
  | [] => []
  | (name, value) :: members => (name, value.normal) :: normalMembers members

end

/-- A value as it is read: the members of its objects are in ascending order of their names, its
    numbers are integers, and at most `depth` lists and objects hold one another. -/
inductive Canonical : Nat → Json → Prop
  | null (depth : Nat) : Canonical depth .null
  | bool (depth : Nat) (value : Bool) : Canonical depth (.bool value)
  | integer (depth : Nat) {n : Int} (least : -leastMagnitude ≤ n) (bound : n < UInt64.size) :
      Canonical depth (.integer n)
  | text (depth : Nat) (value : String) : Canonical depth (.text value)
  | array {depth : Nat} {items : List Json} (values : ∀ item ∈ items, Canonical depth item) :
      Canonical (depth + 1) (.array items)
  | object {depth : Nat} {members : List (String × Json)} (ascending : Ascending members)
      (values : ∀ member ∈ members, Canonical depth member.2) :
      Canonical (depth + 1) (.object members)

theorem normalItems_eq_map (items : List Json) : normalItems items = items.map normal := by
  induction items with
  | nil => rfl
  | cons item items ih => rw [normalItems, ih, List.map_cons]

theorem normalMembers_eq_map (members : List (String × Json)) :
    normalMembers members = members.map fun member => (member.1, member.2.normal) := by
  induction members with
  | nil => rfl
  | cons member members ih => rw [normalMembers, ih, List.map_cons]

/-- The members of an object come from inserting those that were written one by one. -/
theorem ofMembers_eq_foldl (members : List (String × Json)) :
    ofMembers members = .object
      (members.foldl (fun entries (name, value) => insertEntry name value entries) []) :=
  congrArg object (SortedMap.entries_ofList members)

section

variable {depth : Nat}

/-- The normal form of a list is canonical if those of its items are. -/
theorem canonical_array {items : List Json} (h : ∀ item ∈ items, Canonical depth item.normal) :
    Canonical (depth + 1) (array items).normal := by
  rw [normal, normalItems_eq_map]
  exact .array (List.forall_mem_map.2 h)

/-- The normal form of an object is canonical if those of its values are. -/
theorem canonical_object {members : List (String × Json)}
    (h : ∀ member ∈ members, Canonical depth member.2.normal) :
    Canonical (depth + 1) (object members).normal := by
  rw [normal, normalMembers_eq_map]
  refine .object (SortedMap.ofList _).ascending fun member hmember => ?_
  obtain ⟨member, hmem, rfl⟩ := List.mem_map.1 (SortedMap.mem_of_mem_ofList hmember)
  exact h member hmem

end

end Scoreboard.Json
