import Scoreboard.Proofs.Grid.Visibility
import Scoreboard.Screen.TableView

/-!
# Looking up what is shown

On a page whose tables have distinct names, what is looked up for a name is what its table says,
also where two rows of a table share a name: then the later one counts.

## Main definitions

- `ElementId.table?`, `ElementId.row?` — the table and the row that a name belongs to

## Main statements

- `Page.get?_visibility` — what is looked up for a name is what its table says
- `Table.lastEntry_group`, `Table.lastEntry_header`, `Table.lastEntry_row`,
  `Table.lastEntry_cell` — what a table says of its parts

## Design notes

The rows of a page can share names, so the account of a page with distinct names does not cover all
pages of feeds.
-/

namespace Scoreboard

namespace ElementId

/-- The table that a name belongs to. -/
def table? : ElementId → Option String
  | row table _ => some table
  | cell table _ _ => some table
  | header table _ => some table
  | group table _ => some table
  | element _ => none

/-- The row that a name belongs to. -/
def row? : ElementId → Option String
  | row _ id => some id
  | cell _ id _ => some id
  | _ => none

end ElementId

section

variable {selection : Selection} {collapse : Collapse}

theorem Row.name_of_mem_shown {tableId : String} {row : Row} {entry : ElementId × Bool}
    (h : entry ∈ row.shown selection collapse tableId) :
    entry.1.table? = some tableId ∧ entry.1.row? = some row.id := by
  rcases List.mem_cons.1 h with rfl | hcell
  · exact ⟨rfl, rfl⟩
  · obtain ⟨index, hindex, rfl⟩ := List.mem_mapIdx.1 hcell
    exact ⟨rfl, rfl⟩

namespace Table

variable {table : Table}

theorem table?_of_mem_shown {entry : ElementId × Bool}
    (h : entry ∈ table.shown selection collapse) : entry.1.table? = some table.id := by
  rcases List.mem_append.1 h with hheader | hrow
  · rcases List.mem_append.1 hheader with hgroup | hcolumn
    · obtain ⟨group, -, rfl⟩ := List.mem_map.1 hgroup
      rfl
    · obtain ⟨index, hindex, rfl⟩ := List.mem_mapIdx.1 hcolumn
      rfl
  · obtain ⟨row, -, hmem⟩ := List.mem_flatMap.1 hrow
    exact (Row.name_of_mem_shown hmem).1

/-- What is found for a name is the last row of that name. -/
theorem lastRow?_eq_some_iff {id : String} {row : Row} :
    table.lastRow? id = some row ↔ row.id = id ∧
      ∃ front back, table.rows = front ++ row :: back ∧ ∀ other ∈ back, other.id ≠ id := by
  unfold lastRow?
  rw [List.find?_eq_some_iff_append]
  constructor
  · rintro ⟨hid, back, front, hrows, hback⟩
    refine ⟨of_decide_eq_true hid, front.reverse, back.reverse, ?_, fun other hother => ?_⟩
    · have hreverse := congrArg List.reverse hrows
      rw [List.reverse_reverse] at hreverse
      simpa using hreverse
    · simpa using hback other (List.mem_reverse.1 hother)
  · rintro ⟨hid, front, back, hrows, hback⟩
    refine ⟨decide_eq_true hid, back.reverse, front.reverse, ?_, fun other hother => ?_⟩
    · simp [hrows]
    · simpa using hback other (List.mem_reverse.1 hother)

/-- What stands above the rows is not named like a part of them. -/
theorem ne_of_mem_rows {entry : ElementId × Bool} {key : ElementId} (hkey : key.row? = none)
    (h : entry ∈ table.rows.flatMap (Row.shown selection collapse table.id)) : entry.1 ≠ key := by
  rintro rfl
  obtain ⟨row, -, hmem⟩ := List.mem_flatMap.1 h
  rw [(Row.name_of_mem_shown hmem).2] at hkey
  cases hkey

theorem lastEntry_group {group : GroupHeader} (hgroup : group ∈ table.groups) :
    LastEntry (table.shown selection collapse) (.group table.id group.round)
      (selection.allowsRound (some group.round)) := by
  have hgroups : LastEntry (table.groups.map fun group =>
        (ElementId.group table.id group.round, selection.allowsRound (some group.round)))
      (.group table.id group.round) (selection.allowsRound (some group.round)) := by
    refine .of_mem (List.mem_map_of_mem hgroup) fun entry hmem hkey => ?_
    obtain ⟨other, -, rfl⟩ := List.mem_map.1 hmem
    rw [(ElementId.group.inj hkey).2]
  refine (hgroups.append fun entry hmem => ?_).append fun entry hmem => ne_of_mem_rows rfl hmem
  obtain ⟨index, hindex, rfl⟩ := List.mem_mapIdx.1 hmem
  exact fun hkey => ElementId.noConfusion hkey

theorem lastEntry_header {index : Nat} {column : Column}
    (hcolumn : table.columns[index]? = some column) :
    LastEntry (table.shown selection collapse) (.header table.id index)
      (column.tags.visible selection collapse) := by
  obtain ⟨hindex, rfl⟩ := List.getElem?_eq_some_iff.1 hcolumn
  refine LastEntry.append (.prepend (.of_mem ?_ fun entry hmem hkey => ?_) _)
    fun entry hmem => ne_of_mem_rows rfl hmem
  · exact List.mem_mapIdx.2 ⟨index, hindex, rfl⟩
  · obtain ⟨other, hother, rfl⟩ := List.mem_mapIdx.1 hmem
    obtain rfl := (ElementId.header.inj hkey).2
    rfl

/-- The parts of a row count, if it is the last one of its name. -/
theorem lastEntry_of_row {row : Row} {key : ElementId} {value : Bool}
    (hlast : table.lastRow? row.id = some row)
    (h : LastEntry (row.shown selection collapse table.id) key value) :
    LastEntry (table.shown selection collapse) key value := by
  obtain ⟨-, front, back, hrows, hback⟩ := lastRow?_eq_some_iff.1 hlast
  refine (h.flatMap hrows fun other hother entry hmem => ?_).prepend _
  rintro rfl
  have hname := (Row.name_of_mem_shown h.mem).2
  rw [(Row.name_of_mem_shown hmem).2, Option.some_inj] at hname
  exact hback other hother hname

theorem lastEntry_row {row : Row} (hlast : table.lastRow? row.id = some row) :
    LastEntry (table.shown selection collapse) (.row table.id row.id)
      (row.tags.visible selection collapse) := by
  refine lastEntry_of_row hlast (.of_mem List.mem_cons_self fun entry hmem hkey => ?_)
  rcases List.mem_cons.1 hmem with rfl | hcell
  · rfl
  · obtain ⟨index, hindex, rfl⟩ := List.mem_mapIdx.1 hcell
    cases hkey

theorem lastEntry_cell {row : Row} {index : Nat} {cell : Cell}
    (hlast : table.lastRow? row.id = some row) (hcell : row.cells[index]? = some cell) :
    LastEntry (table.shown selection collapse) (.cell table.id row.id index)
      (row.tags.visible selection collapse && cell.tags.visible selection collapse) := by
  obtain ⟨hindex, rfl⟩ := List.getElem?_eq_some_iff.1 hcell
  refine lastEntry_of_row hlast (.of_mem ?_ fun entry hmem hkey => ?_)
  · exact List.mem_cons_of_mem _ (List.mem_mapIdx.2 ⟨index, hindex, rfl⟩)
  · rcases List.mem_cons.1 hmem with rfl | hother
    · cases hkey
    · obtain ⟨other, hother, rfl⟩ := List.mem_mapIdx.1 hother
      obtain rfl := (ElementId.cell.inj hkey).2.2
      rfl

end Table

/-- Where tables have distinct names, a name in a table is looked up in that table alone. -/
theorem Page.get?_visibility {page : Page} {table : Table} {key : ElementId} {value : Bool}
    (hnodup : (page.tables.map Table.id).Nodup) (htable : table ∈ page.tables)
    (h : LastEntry (table.shown selection collapse) key value) :
    (page.visibility selection collapse).get? key = some value := by
  have hkey := Table.table?_of_mem_shown h.mem
  obtain ⟨front, back, htables⟩ := List.append_of_mem htable
  refine SortedMap.get?_ofList_of_lastEntry (.append (h.flatMap htables ?_) ?_)
  · -- A later table that says something of the name would be one of the same name.
    rintro other hother entry hmem rfl
    rw [Table.table?_of_mem_shown hmem, Option.some_inj] at hkey
    rw [htables] at hnodup
    exact (List.ne_of_nodup_map hnodup).2 other hother hkey
  · rintro entry hmem rfl
    obtain ⟨element, -, rfl⟩ := List.mem_map.1 hmem
    cases hkey

end

end Scoreboard
