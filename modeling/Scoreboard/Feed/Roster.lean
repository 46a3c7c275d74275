import Scoreboard.SortedMap

/-!
# Rosters

A roster keeps named things in the order in which their names first came up, and finds them by name.

## Main definitions

- `Roster` — the things and an index of their places
- `Roster.put` — a roster with a thing added, or replaced in place
- `Roster.find?` — the place of a name
- `Roster.modify` — a roster with the thing at a place changed
-/

namespace Scoreboard

/-- Named things in the order in which their names first came up. -/
structure Roster (α : Type) where
  items : List α
  /-- The place of each name. -/
  index : SortedMap String Nat
  deriving DecidableEq

namespace Roster

variable {α : Type}

/-- The roster of nothing. -/
def empty : Roster α := ⟨[], ∅⟩

instance : EmptyCollection (Roster α) := ⟨empty⟩

/-- The place of a name. -/
def find? (roster : Roster α) (name : String) : Option Nat :=
  roster.index.get? name

/-- The roster with a thing added at the end, or put in the place of the thing of its name; and
    whether there was one. -/
def put (roster : Roster α) (name : String) (item : α) : Roster α × Bool :=
  match roster.find? name with
  | some place => ({ roster with items := roster.items.set place item }, true)
  | none =>
    (⟨roster.items ++ [item], roster.index.insert name roster.items.length⟩, false)

/-- The roster with the thing at a place changed. -/
def modify (roster : Roster α) (place : Nat) (change : α → α) : Roster α :=
  { roster with items := roster.items.modify place change }

end Roster

end Scoreboard
