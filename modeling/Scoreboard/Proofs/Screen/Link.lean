import Scoreboard.Proofs.Feed.Distinct
import Scoreboard.Proofs.Grid.Axes
import Scoreboard.Proofs.Screen.Board
import Scoreboard.Proofs.Screen.Table

/-!
# Links that collapse a round

A click on the link of a collapsed round always leaves the link in place. A click on the link of an
expanded round does so if something of the round is not hidden with it, and otherwise the link is
gone and the round cannot be expanded from where it was collapsed.

## Main definitions

- `Table.KeepsColumn` — a column of a round is drawn although the round is collapsed
- `Board.DrawsLink` — a board draws a link that collapses or expands a round in a table

## Main statements

- `Store.drawsLink_turned` — whether a link is drawn again once its round is turned
- `Board.link_after_click` — whether a link is drawn again after a click on it
-/

namespace Scoreboard

/-- A column of a round is drawn although the round is collapsed: its header is not hidden with the
    round, or a cell is visible there that is not. -/
def Table.KeepsColumn (table : Table) (render : Render) (offset : Nat) (round : RoundId) : Prop :=
  ∃ index < table.drawnWidth offset, ∃ column, table.columnOver? offset index = some column ∧
    column.round = some round ∧
    (column.hideable = false ∨ ∃ row ∈ table.visibleRows render, ∃ cell,
      row.cells[index]? = some cell ∧ render.cellVisible table row index = true ∧
        ¬(cell.hideable = true ∧ cell.round = some round))

namespace Store

variable {store : Store} {table : Table} {round : RoundId} {collapse : Collapse} {offset : Nat}
  (hnodup : (store.page.tables.map Table.id).Nodup) (htable : table ∈ store.page.tables)
  (hallowed : store.selection.allowsRound (some round) = true)
  (hturned : ∀ other, collapse.isCollapsed other =
    (store.collapse.isCollapsed other ^^ decide (other = round)))
  (sort sort' : Option SortReport)

include hallowed in
theorem visible_of_expanded {column : Column} (hcolumn : column.round = some round)
    (hexpanded : collapse.isCollapsed round = false) :
    column.tags.visible store.selection collapse = true := by
  simp [Tags.visible, Column.tags, hcolumn, hallowed, hexpanded, Selection.allowsPlayer,
    Selection.passes_none]

include hnodup htable hallowed hturned

/-- Where a round was collapsed, a column of it is drawn if something there is not hidden with the
    round. -/
theorem showsAt_collapsed_iff (heven : table.Even)
    (hexpanded : store.collapse.isCollapsed round = false) {index : Nat}
    (hindex : index < table.drawnWidth offset) {column : Column}
    (hcolumn : table.columnOver? offset index = some column) (hround : column.round = some round) :
    table.showsAt { ({ store with collapse } : Store).render with sort := sort' } offset index =
        true ↔
      column.hideable = false ∨ ∃ row ∈ table.visibleRows { store.render with sort }, ∃ cell,
        row.cells[index]? = some cell ∧
          Render.cellVisible { store.render with sort } table row index = true ∧
          ¬(cell.hideable = true ∧ cell.round = some round) := by
  have hheader : column.tags.visible store.selection collapse = true ↔ column.hideable = false := by
    rw [Tags.visible_collapse hexpanded hturned, visible_of_expanded hallowed hround hexpanded]
    simp [Column.tags, hround]
  have hcells {row : Row} (hrow : row ∈ table.visibleRows { store.render with sort }) {cell : Cell}
      (hcell : row.cells[index]? = some cell) :
      Render.cellVisible { ({ store with collapse } : Store).render with sort := sort' } table row
          index = true ↔
        Render.cellVisible { store.render with sort } table row index = true ∧
          ¬(cell.hideable = true ∧ cell.round = some round) := by
    rw [cellVisible_eq { store with collapse } hnodup htable sort'
        (visibleRows_collapse store hnodup htable sort collapse sort' ▸ hrow) hcell,
      cellVisible_eq store hnodup htable sort hrow hcell, Tags.visible_collapse hexpanded hturned,
      Bool.and_eq_true, Bool.not_eq_true', ← Bool.not_eq_true, Bool.and_eq_true,
      decide_eq_true_eq]
    rfl
  rw [showsAt_iff { store with collapse } hnodup htable sort' hcolumn, hheader,
    visibleRows_collapse store hnodup htable sort collapse sort']
  refine or_congr_right ⟨?_, ?_⟩
  · rintro ⟨row, hrow, hvisible⟩
    have hmem := ((mem_visibleRows_iff store hnodup htable sort).1 hrow).1
    obtain ⟨cell, hcell⟩ :=
      Table.exists_cell heven (Table.mem_rows_of_mem_lastRows hmem) hindex
    exact ⟨row, hrow, cell, hcell, (hcells hrow hcell).1 hvisible⟩
  · rintro ⟨row, hrow, cell, hcell, hvisible⟩
    exact ⟨row, hrow, (hcells hrow hcell).2 hvisible⟩

omit hallowed in
/-- Once a round is turned, its link is drawn again, if the round was collapsed, or else if
    something of the round is not hidden with it. -/
theorem drawsLink_turned (heven : table.Even)
    (hdrawn : table.DrawsLink { store.render with sort } offset round) :
    table.DrawsLink { ({ store with collapse } : Store).render with sort := sort' } offset round ↔
      store.collapse.isCollapsed round = true ∨
        table.KeepsColumn { store.render with sort } offset round := by
  obtain ⟨hgroup, hvisible, index, hindex, hround, -⟩ := Table.drawsLink_iff.1 hdrawn
  rw [groupVisible_eq store hnodup htable sort hgroup] at hvisible
  have hvisible' := groupVisible_eq { store with collapse } hnodup htable sort' hgroup
  rw [Table.drawsLink_iff, hvisible']
  cases hcollapsed : store.collapse.isCollapsed round with
  | true =>
    -- Once expanded, all columns of the round are drawn.
    obtain ⟨column, hcolumn, hcolumnRound⟩ := Option.bind_eq_some_iff.1 hround
    have hexpanded : collapse.isCollapsed round = false := by
      rw [hturned, hcollapsed]
      simp
    have hshows := (showsAt_iff { store with collapse } hnodup htable sort' hcolumn).2
      (.inl (visible_of_expanded hvisible hcolumnRound hexpanded))
    exact iff_of_true ⟨hgroup, hvisible, index, hindex, hround, hshows⟩ (.inl rfl)
  | false =>
    constructor
    · rintro ⟨-, -, index, hindex, hround, hshows⟩
      obtain ⟨column, hcolumn, hcolumnRound⟩ := Option.bind_eq_some_iff.1 hround
      exact .inr ⟨index, hindex, column, hcolumn, hcolumnRound,
        (showsAt_collapsed_iff hnodup htable hvisible hturned sort sort' heven hcollapsed hindex
          hcolumn hcolumnRound).1 hshows⟩
    · rintro (hfalse | ⟨index, hindex, column, hcolumn, hcolumnRound, hkept⟩)
      · cases hfalse
      · refine ⟨hgroup, hvisible, index, hindex, Option.bind_eq_some_iff.2 ⟨column, hcolumn,
          hcolumnRound⟩, ?_⟩
        exact (showsAt_collapsed_iff hnodup htable hvisible hturned sort sort' heven hcollapsed
          hindex hcolumn hcolumnRound).2 hkept

end Store

namespace Board

/-- A board draws a link that collapses or expands a round in a table. -/
def DrawsLink (board : Board) (table : Table) (round : RoundId) : Prop :=
  table ∈ board.store.page.tables ∧
    table.DrawsLink board.render board.store.settings.cellOffset.toNat round

instance (board : Board) (table : Table) (round : RoundId) :
    Decidable (board.DrawsLink table round) :=
  inferInstanceAs (Decidable (_ ∧ _))

/-- After a click on the link of a round, the table draws such a link again, if the round was
    collapsed, or else if a column of it is drawn though the round is collapsed. -/
theorem link_after_click {every : Nat} {lines : List (Option String)} {outcome : FeedOutcome}
    (hread : (Feed.read every lines).1 = .ok outcome) {settings : Settings}
    {frames : List (Int × List Nat)} {board : Board}
    (hrun : run { store := Store.new outcome.page settings } frames = some board) (clock : Int)
    {table : Table} {round : RoundId} (hdrawn : board.DrawsLink table round) {position : Nat}
    (hclicked :
      (board.widgets[position]?).bind Widget.action = some (.event (.roundToggle round))) :
    ∃ next, board.frame clock [position] = some next ∧
      (next.DrawsLink table round ↔
        board.store.collapse.isCollapsed round = true ∨
          table.KeepsColumn board.render board.store.settings.cellOffset.toNat round) := by
  obtain ⟨htable, hlink⟩ := hdrawn
  obtain ⟨hnodup, huneven⟩ := Feed.tables_of_read hread
  have hshows := (shows_new outcome.page settings).run hrun
  have hfollows := hshows.follows
  have hround : outcome.page.hasRound round = true := by
    obtain ⟨⟨group, hgroup, rfl⟩, -⟩ := Table.drawsLink_iff.1 hlink
    exact hfollows.rearranged.hasRound_of_mem htable hgroup
  have heven : table.Even :=
    hfollows.rearranged.even (Page.unevenRow?_eq_none_iff.1 huneven) htable
  rw [← hfollows.rearranged.tableIds_eq] at hnodup
  -- The click turns the round and nothing else.
  obtain ⟨⟨collapse, hcollapse⟩, hturned⟩ := Store.step_roundToggle hfollows clock hround
  refine ⟨_, frame_of_click hclicked, ?_⟩
  obtain ⟨sort, hrender⟩ := hshows.render
  obtain ⟨sort', hrender'⟩ := (hshows.drawn.take clock (.roundToggle round)).render
  rw [store_take] at hrender'
  rw [hcollapse] at hturned hrender'
  rw [DrawsLink, hrender', store_take, hcollapse]
  rw [hrender] at hlink ⊢
  have hiff := Store.drawsLink_turned hnodup htable hturned sort sort' heven hlink
  exact ⟨fun h => hiff.1 h.2, fun h => ⟨htable, hiff.2 h⟩⟩

/-- A feed with one table and two rounds, whose columns are hidden with them. A cell of the second
    round is, too. -/
def twoRounds : List String :=
  ["[\"page\",[\"Open\"]]",
    "[\"table\",\x7b\"id\":\"t\",\"columns\":[[\"R1\",1,true],[\"R2\",2,true]],"
      ++ "\"groups\":[[1,\"One\"],[2,\"Two\"]]\x7d]",
    "[\"row\",\x7b\"table_id\":\"t\",\"id\":\"a\",\"cells\":[\"Ann\","
      ++ "\x7b\"text\":\"3\",\"round\":1\x7d,"
      ++ "\x7b\"text\":\"4\",\"round\":2,\"hideable\":true\x7d]\x7d]"]

/-- The table of that feed. -/
def twoRoundsTable : Table where
  id := "t"
  year := none
  leading := []
  columns := [⟨"R1", some ⟨1⟩, true⟩, ⟨"R2", some ⟨2⟩, true⟩]
  groups := [⟨⟨1⟩, "One", none⟩, ⟨⟨2⟩, "Two", none⟩]
  rows := [⟨"a", none, none,
    [Cell.plain "Ann", ⟨"3", some ⟨1⟩, none, false⟩, ⟨"4", some ⟨2⟩, none, true⟩]⟩]

/-- The page of that feed. -/
def twoRoundsPage : Page :=
  ⟨"Open", none, [twoRoundsTable], []⟩

theorem read_twoRounds : (Feed.read 0 (twoRounds.map some)).1 = .ok ⟨3, 0, twoRoundsPage, []⟩ := by
  decide +kernel

/-- The link of the first round is there after a click, since a cell of the round is not hidden. -/
theorem link_after_click_twoRounds :
    let start : Board := { store := Store.new twoRoundsPage {} }
    (Feed.read 0 (twoRounds.map some)).1 = .ok ⟨3, 0, twoRoundsPage, []⟩ ∧
      start.DrawsLink twoRoundsTable ⟨1⟩ ∧
      (start.widgets[9]?).bind Widget.action = some (.event (.roundToggle ⟨1⟩)) ∧
      ∃ next, start.frame 2025 [9] = some next ∧ next.DrawsLink twoRoundsTable ⟨1⟩ := by
  intro start
  have hdrawn : start.DrawsLink twoRoundsTable ⟨1⟩ := by decide +kernel
  have hclicked : (start.widgets[9]?).bind Widget.action = some (.event (.roundToggle ⟨1⟩)) := by
    decide +kernel
  obtain ⟨next, hnext, hiff⟩ := link_after_click read_twoRounds (rfl : start.run [] = _) 2025 hdrawn
    hclicked
  refine ⟨read_twoRounds, hdrawn, hclicked, next, hnext, hiff.2 (.inr ?_)⟩
  refine ⟨1, by decide, ⟨"R1", some ⟨1⟩, true⟩, by decide, rfl, .inr ?_⟩
  exact ⟨⟨"a", none, none, [Cell.plain "Ann", ⟨"3", some ⟨1⟩, none, false⟩,
    ⟨"4", some ⟨2⟩, none, true⟩]⟩, by decide +kernel, ⟨"3", some ⟨1⟩, none, false⟩, by decide,
    by decide +kernel, by decide⟩

/-- The link of the second round is gone after a click, since all that is shown of the round is
    hidden. -/
theorem link_lost_twoRounds :
    let start : Board := { store := Store.new twoRoundsPage {} }
    (Feed.read 0 (twoRounds.map some)).1 = .ok ⟨3, 0, twoRoundsPage, []⟩ ∧
      start.DrawsLink twoRoundsTable ⟨2⟩ ∧
      (start.widgets[10]?).bind Widget.action = some (.event (.roundToggle ⟨2⟩)) ∧
      ∃ next, start.frame 2025 [10] = some next ∧ ¬next.DrawsLink twoRoundsTable ⟨2⟩ := by
  intro start
  have hdrawn : start.DrawsLink twoRoundsTable ⟨2⟩ := by decide +kernel
  have hclicked : (start.widgets[10]?).bind Widget.action = some (.event (.roundToggle ⟨2⟩)) := by
    decide +kernel
  refine ⟨read_twoRounds, hdrawn, hclicked, _, frame_of_click hclicked, ?_⟩
  decide +kernel

end Board

end Scoreboard
