import Scoreboard.Page.Width
import Scoreboard.Proofs.List

/-!
# Well-formed pages

Names stand for one thing each, and the rows of a table are equally wide.

## Main definitions

- `Page.DistinctIds` — no name stands for two tables, two rows of a table or two elements
- `Table.Even` — the rows of a table are equally wide

## Main statements

- `Page.unevenRow?_eq_none_iff` — a page has no uneven row just if its tables are even
-/

namespace Scoreboard

/-- No name stands for two tables, for two rows of a table or for two elements. -/
structure Page.DistinctIds (page : Page) : Prop where
  /-- Tables have distinct names. -/
  tables : (page.tables.map Table.id).Nodup
  /-- The rows of a table have distinct names. -/
  rows : ∀ table ∈ page.tables, table.rowIds.Nodup
  /-- Elements have distinct names. -/
  elements : (page.elements.map Element.id).Nodup

/-- The rows of a table are equally wide. -/
def Table.Even (table : Table) : Prop :=
  ∀ row ∈ table.rows, ∀ other ∈ table.rows, row.cells.length = other.cells.length

instance (table : Table) : Decidable table.Even :=
  inferInstanceAs
    (Decidable (∀ row ∈ table.rows, ∀ other ∈ table.rows, row.cells.length = other.cells.length))

theorem Table.unevenRow?_eq_none_iff {table : Table} :
    table.unevenRow? = none ↔ table.Even := by
  unfold unevenRow? Even
  split
  · next hrows =>
    rw [hrows]
    exact ⟨fun _ row hrow => absurd hrow List.not_mem_nil, fun _ => rfl⟩
  · next first rest hrows =>
    rw [hrows, Option.map_eq_none_iff, List.find?_eq_none]
    simp only [ne_eq, decide_not, Bool.not_eq_eq_eq_not, Bool.not_true, decide_eq_false_iff_not,
      Decidable.not_not]
    constructor
    · -- Every row is as wide as the first one.
      intro hrest
      have hfirst : ∀ row ∈ first :: rest, row.cells.length = first.cells.length :=
        List.forall_mem_cons.2 ⟨rfl, hrest⟩
      intro row hrow other hother
      rw [hfirst row hrow, hfirst other hother]
    · intro heven row hrow
      exact heven row (List.mem_cons_of_mem _ hrow) first List.mem_cons_self

/-- A page has no uneven row just if its tables are even. -/
theorem Page.unevenRow?_eq_none_iff {page : Page} :
    page.unevenRow? = none ↔ ∀ table ∈ page.tables, table.Even := by
  simp only [unevenRow?, List.findSome?_eq_none_iff, Table.unevenRow?_eq_none_iff]

end Scoreboard
