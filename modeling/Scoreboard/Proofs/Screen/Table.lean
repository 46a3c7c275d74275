import Scoreboard.Proofs.Grid.Rows
import Scoreboard.Proofs.Screen.Names

/-!
# What a table draws

## Main definitions

- `Table.columnOver?`, `Table.roundOver?` — the column over the cells at a position, and its round
- `Table.DrawsLink` — a table draws a link that collapses or expands a round

## Main statements

- `Table.drawsLink_iff` — when a table draws the link of a round
- `Store.visibleRows_eq` — which rows are drawn
- `Store.showsAt_iff`, `Store.cellVisible_eq` — which cells are drawn
-/

namespace Scoreboard

namespace Table

/-- The column that the cells at a position belong to. -/
def columnOver? (table : Table) (offset index : Nat) : Option Column :=
  (table.columnAt? offset index).bind fun column => table.columns[column]?

/-- The round of the column that the cells at a position belong to. -/
def roundOver? (table : Table) (offset index : Nat) : Option RoundId :=
  (table.columnOver? offset index).bind Column.round

/-- A table draws a link that collapses or expands a round. -/
def DrawsLink (table : Table) (render : Render) (offset : Nat) (round : RoundId) : Prop :=
  ∃ widget ∈ table.widgets render offset, widget.action = some (.event (.roundToggle round))

instance (table : Table) (render : Render) (offset : Nat) (round : RoundId) :
    Decidable (table.DrawsLink render offset round) :=
  inferInstanceAs (Decidable (∃ widget ∈ table.widgets render offset,
    widget.action = some (.event (.roundToggle round))))

variable {table : Table} {render : Render} {offset : Nat} {round : RoundId}

theorem groupAt?_eq (seen : List RoundId) (index : Nat) :
    table.groupAt? offset seen index =
      (table.roundOver? offset index).bind fun round =>
        if round ∈ seen then none else table.groups.find? fun group => group.round = round := by
  unfold groupAt? roundOver? columnOver?
  cases table.columnAt? offset index with
  | none => rfl
  | some column =>
    cases hcolumn : table.columns[column]? with
    | none => simp [hcolumn]
    | some column => simp [hcolumn]

theorem of_groupAt? {seen : List RoundId} {index : Nat} {group : GroupHeader}
    (h : table.groupAt? offset seen index = some group) :
    table.roundOver? offset index = some group.round ∧ group.round ∉ seen ∧
      group ∈ table.groups := by
  rw [groupAt?_eq, Option.bind_eq_some_iff] at h
  obtain ⟨round, hround, hfind⟩ := h
  split at hfind
  · cases hfind
  · next hseen =>
    obtain rfl : group.round = round := by simpa using List.find?_some hfind
    exact ⟨hround, hseen, List.mem_of_find?_eq_some hfind⟩

theorem action_groupWidget (group : GroupHeader) :
    (table.groupWidget render group).action =
      if render.isVisible (.group table.id group.round) then
        some (.event (.roundToggle group.round))
      else none := by
  unfold groupWidget
  split
  · rfl
  · rfl

/-- The row of round headers has a link for a round, if its header is visible, was not drawn further
    left, and a column of the round is drawn. -/
theorem link_mem_groupWidgets_iff (seen : List RoundId) (shown : List Nat) :
    (∃ widget ∈ table.groupWidgets render offset seen shown,
        widget.action = some (.event (.roundToggle round))) ↔
      round ∉ seen ∧ (∃ group ∈ table.groups, group.round = round) ∧
        render.isVisible (.group table.id round) = true ∧
        ∃ index ∈ shown, table.roundOver? offset index = some round := by
  induction shown generalizing seen with
  | nil => simp [groupWidgets]
  | cons index rest ih =>
    unfold groupWidgets
    cases hgroup : table.groupAt? offset seen index with
    | none =>
      rw [List.exists_mem_cons_iff, ih, List.exists_mem_cons_iff]
      constructor
      · rintro (haction | ⟨hseen, hgroups, hvisible, hrest⟩)
        · cases haction
        · exact ⟨hseen, hgroups, hvisible, .inr hrest⟩
      · rintro ⟨hseen, ⟨group, hmem, rfl⟩, hvisible, hround | hrest⟩
        · -- The header would have been drawn here.
          rw [groupAt?_eq, hround, Option.bind_some, if_neg hseen, List.find?_eq_none] at hgroup
          exact absurd (decide_eq_true rfl) (hgroup group hmem)
        · exact .inr ⟨hseen, ⟨group, hmem, rfl⟩, hvisible, hrest⟩
    | some group =>
      obtain ⟨hround, hseen, hmem⟩ := of_groupAt? hgroup
      rw [List.exists_mem_cons_iff, ih, List.exists_mem_cons_iff, action_groupWidget, hround,
        List.mem_cons, not_or]
      by_cases hsame : group.round = round
      · -- The link stands here or nowhere.
        subst hsame
        constructor
        · rintro (haction | ⟨⟨hnot, -⟩, -⟩)
          · split at haction
            · next hvisible => exact ⟨hseen, ⟨group, hmem, rfl⟩, hvisible, .inl rfl⟩
            · cases haction
          · exact absurd rfl hnot
        · rintro ⟨-, -, hvisible, -⟩
          exact .inl (if_pos hvisible)
      · constructor
        · rintro (haction | ⟨⟨-, hseen'⟩, hgroups, hvisible, hrest⟩)
          · split at haction
            · cases haction
              exact absurd rfl hsame
            · cases haction
          · exact ⟨hseen', hgroups, hvisible, .inr hrest⟩
        · rintro ⟨hseen', hgroups, hvisible, hhere | hrest⟩
          · exact absurd (Option.some_inj.1 hhere) hsame
          · exact .inr ⟨⟨Ne.symm hsame, hseen'⟩, hgroups, hvisible, hrest⟩

theorem action_headerWidget (index : Nat) :
    (table.headerWidget render offset index).action ≠ some (.event (.roundToggle round)) := by
  unfold headerWidget
  split
  · simp [Widget.label]
  · split
    · simp [Widget.button]
    · simp [Widget.label]

/-- All links stand in the row of round headers. -/
theorem drawsLink_iff_groupWidgets :
    table.DrawsLink render offset round ↔
      ∃ widget ∈ table.groupWidgets render offset [] (table.shownCells render offset),
        widget.action = some (.event (.roundToggle round)) := by
  unfold DrawsLink widgets
  constructor
  · rintro ⟨widget, hmem, haction⟩
    rcases List.mem_append.1 hmem with hmem | hcell
    · rcases List.mem_append.1 hmem with hgroup | hheader
      · exact ⟨widget, hgroup, haction⟩
      · obtain ⟨index, -, rfl⟩ := List.mem_map.1 hheader
        exact absurd haction (action_headerWidget index)
    · obtain ⟨row, -, hrow⟩ := List.mem_flatMap.1 hcell
      obtain ⟨index, -, rfl⟩ := List.mem_map.1 hrow
      cases haction
  · rintro ⟨widget, hmem, haction⟩
    exact ⟨widget, List.mem_append_left _ (List.mem_append_left _ hmem), haction⟩

/-- A table draws the link of a round, if its header is visible and a column of the round is
    drawn. -/
theorem drawsLink_iff :
    table.DrawsLink render offset round ↔
      (∃ group ∈ table.groups, group.round = round) ∧
        render.isVisible (.group table.id round) = true ∧
        ∃ index < table.drawnWidth offset, table.roundOver? offset index = some round ∧
          table.showsAt render offset index = true := by
  have hshown : (∃ index ∈ table.shownCells render offset,
        table.roundOver? offset index = some round) ↔
      ∃ index < table.drawnWidth offset, table.roundOver? offset index = some round ∧
        table.showsAt render offset index = true := by
    refine exists_congr fun index => ?_
    rw [shownCells, List.mem_filter, List.mem_range, and_assoc]
    exact and_congr_right' and_comm
  rw [drawsLink_iff_groupWidgets, link_mem_groupWidgets_iff, hshown]
  exact and_iff_right List.not_mem_nil

/-- The last rows of the names in a table. -/
def lastRows (table : Table) : List Row :=
  table.rowIds.filterMap table.lastRow?

theorem lastRow?_of_mem_lastRows {row : Row} (h : row ∈ table.lastRows) :
    table.lastRow? row.id = some row := by
  obtain ⟨id, -, hlast⟩ := List.mem_filterMap.1 h
  obtain ⟨rfl, -⟩ := lastRow?_eq_some_iff.1 hlast
  exact hlast

theorem mem_rows_of_mem_lastRows {row : Row} (h : row ∈ table.lastRows) : row ∈ table.rows := by
  obtain ⟨-, front, back, hrows, -⟩ := lastRow?_eq_some_iff.1 (lastRow?_of_mem_lastRows h)
  rw [hrows]
  exact List.mem_append_right _ List.mem_cons_self

theorem drawnWidth_eq (heven : table.Even) {row : Row} (hrow : row ∈ table.rows) :
    table.drawnWidth offset = row.cells.length := by
  unfold drawnWidth
  split
  · next first rest hrows => exact heven first (hrows ▸ List.mem_cons_self) row hrow
  · next hrows =>
    rw [hrows] at hrow
    cases hrow

theorem exists_cell (heven : table.Even) {row : Row} (hrow : row ∈ table.rows) {index : Nat}
    (hindex : index < table.drawnWidth offset) : ∃ cell, row.cells[index]? = some cell := by
  rw [drawnWidth_eq heven hrow] at hindex
  exact ⟨_, List.getElem?_eq_getElem hindex⟩

end Table

namespace Page

variable {page page' : Page}

theorem Rearranged.even (h : page.Rearranged page') (heven : ∀ table ∈ page.tables, table.Even)
    {table' : Table} (htable' : table' ∈ page'.tables) : table'.Even := by
  obtain ⟨table, htable, hsame⟩ := h.exists_table htable'
  intro row hrow other hother
  exact heven table htable row (hsame.perm.mem_iff.1 hrow) other (hsame.perm.mem_iff.1 hother)

end Page

namespace Store

variable (store : Store) {table : Table} (hnodup : (store.page.tables.map Table.id).Nodup)
  (htable : table ∈ store.page.tables) (sort : Option SortReport)

include hnodup htable

theorem isVisible_of_lastEntry {key : ElementId} {value : Bool}
    (h : LastEntry (table.shown store.selection store.collapse) key value) :
    Render.isVisible { store.render with sort } key = value := by
  have hget : store.render.visibility.get? key = some value :=
    Page.get?_visibility hnodup htable h
  unfold Render.isVisible
  dsimp only
  rw [hget]
  rfl

theorem rowOrder?_eq :
    Render.rowOrder? { store.render with sort } table.id = some table.rowIds := by
  rw [Store.rowOrder?_render, Page.table?_of_nodup hnodup htable, Option.map_some]

/-- The rows that are drawn are the last ones of their names that are visible. -/
theorem visibleRows_eq :
    table.visibleRows { store.render with sort } =
      table.lastRows.filter fun row => row.tags.visible store.selection store.collapse := by
  unfold Table.visibleRows Table.orderedRows
  rw [rowOrder?_eq store hnodup htable sort]
  refine List.filter_congr fun row hrow => ?_
  exact isVisible_of_lastEntry store hnodup htable sort
    (Table.lastEntry_row (Table.lastRow?_of_mem_lastRows hrow))

theorem mem_visibleRows_iff {row : Row} :
    row ∈ table.visibleRows { store.render with sort } ↔
      row ∈ table.lastRows ∧ row.tags.visible store.selection store.collapse = true := by
  rw [visibleRows_eq store hnodup htable sort, List.mem_filter]

/-- Which rows are drawn does not depend on the collapsed rounds. -/
theorem visibleRows_collapse (collapse : Collapse) (sort' : Option SortReport) :
    table.visibleRows { ({ store with collapse } : Store).render with sort := sort' } =
      table.visibleRows { store.render with sort } := by
  rw [visibleRows_eq { store with collapse } hnodup htable sort',
    visibleRows_eq store hnodup htable sort]
  refine List.filter_congr fun row _ => ?_
  simp [Tags.visible, Row.tags]

/-- The position of a column is drawn, if its header is visible or a drawn row has a visible cell
    there. -/
theorem showsAt_iff {offset index : Nat} {column : Column}
    (hcolumn : table.columnOver? offset index = some column) :
    table.showsAt { store.render with sort } offset index = true ↔
      column.tags.visible store.selection store.collapse = true ∨
        ∃ row ∈ table.visibleRows { store.render with sort },
          Render.cellVisible { store.render with sort } table row index = true := by
  obtain ⟨place, hplace, hcolumn⟩ := Option.bind_eq_some_iff.1 hcolumn
  unfold Table.showsAt
  rw [hplace]
  dsimp only
  rw [Bool.or_eq_true, List.any_eq_true, Render.headerVisible,
    isVisible_of_lastEntry store hnodup htable sort (Table.lastEntry_header hcolumn)]

/-- A cell of a drawn row is visible as its own tags tell. -/
theorem cellVisible_eq {row : Row} (hrow : row ∈ table.visibleRows { store.render with sort })
    {index : Nat} {cell : Cell} (hcell : row.cells[index]? = some cell) :
    Render.cellVisible { store.render with sort } table row index =
      cell.tags.visible store.selection store.collapse := by
  obtain ⟨hmem, hvisible⟩ := (mem_visibleRows_iff store hnodup htable sort).1 hrow
  have hlast := Table.lastRow?_of_mem_lastRows hmem
  unfold Render.cellVisible
  rw [isVisible_of_lastEntry store hnodup htable sort (Table.lastEntry_cell hlast hcell), hvisible,
    Bool.true_and]

theorem groupVisible_eq {round : RoundId} (hgroup : ∃ group ∈ table.groups, group.round = round) :
    Render.isVisible { store.render with sort } (.group table.id round) =
      store.selection.allowsRound (some round) := by
  obtain ⟨group, hgroup, rfl⟩ := hgroup
  exact isVisible_of_lastEntry store hnodup htable sort (Table.lastEntry_group hgroup)

end Store

end Scoreboard
