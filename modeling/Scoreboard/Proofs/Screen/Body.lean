import Scoreboard.Proofs.Feed.Distinct
import Scoreboard.Proofs.Screen.Board
import Scoreboard.Proofs.Screen.Table
import Scoreboard.Screen.LoadFrame

/-!
# What stands below the headers

The store marks each thing on its page as shown or hidden. The screen finds out on its own which
rows, cells and elements to draw, and draws just those that are marked.

## Main definitions

- `Store.marks` — the store marks a thing as shown
- `Store.DrawsBody` — of the rows and cells of a table just those are drawn that are marked

## Main statements

- `Store.drawsBody` — where names are distinct, a table is drawn as the store marks it
- `Board.run_draws` — whatever is clicked, the board draws what the store marks

## Design notes

That nothing is drawn that is not marked can be seen row by row. That nothing is missing needs more:
a position is not drawn at all where neither its header nor a drawn row has something to show, and
cells beyond the width of the first row are never drawn.
-/

namespace Scoreboard

namespace Page

variable {page page' : Page}

theorem DistinctIds.rearranged (hdistinct : page.DistinctIds) (h : page.Rearranged page') :
    page'.DistinctIds where
  tables := by
    rw [h.tableIds_eq]
    exact hdistinct.tables
  rows := by
    intro table' htable'
    obtain ⟨table, htable, hsame⟩ := h.exists_table htable'
    exact (hsame.perm.map Row.id).nodup_iff.2 (hdistinct.rows table htable)
  elements := by
    rw [h.same]
    exact hdistinct.elements

end Page

namespace Table

variable {table : Table}

theorem lastRow?_of_nodup (hnodup : table.rowIds.Nodup) {row : Row} (hrow : row ∈ table.rows) :
    table.lastRow? row.id = some row := by
  obtain ⟨front, back, hrows⟩ := List.append_of_mem hrow
  rw [rowIds, hrows] at hnodup
  exact lastRow?_eq_some_iff.2 ⟨rfl, front, back, hrows, (List.ne_of_nodup_map hnodup).2⟩

theorem lastRows_of_nodup (hnodup : table.rowIds.Nodup) : table.lastRows = table.rows := by
  calc table.lastRows
      = table.rows.filterMap fun row => table.lastRow? row.id := List.filterMap_map
    _ = table.rows.filterMap some :=
      List.filterMap_congr fun row hrow => lastRow?_of_nodup hnodup hrow
    _ = table.rows := List.filterMap_some

end Table

namespace Store

/-- The store marks a thing as shown. -/
def marks (store : Store) (id : ElementId) : Bool :=
  store.render.visibility.get? id = some true

/-- The rows of a table that are marked, in their order. -/
def markedRows (store : Store) (table : Table) : List Row :=
  table.rows.filter fun row => store.marks (.row table.id row.id)

/-- The text of a cell, if it is marked. -/
def markedText (store : Store) (table : Table) (row : Row) (index : Nat) : String :=
  match row.cells[index]? with
  | some cell => if store.marks (.cell table.id row.id index) then cell.text else ""
  | none => ""

/-- Of the rows and cells of a table just those are drawn that the store marks. -/
structure DrawsBody (store : Store) (render : Render) (offset : Nat) (table : Table) : Prop where
  /-- The rows stand in the order that the store tells. -/
  rowOrder : store.render.rowOrder? table.id = some table.rowIds
  /-- Below the headers stand the marked rows. Each has a text at every position that is drawn,
      which is blank where the cell is not marked. -/
  widgets : table.widgets render offset =
    table.groupWidgets render offset [] (table.shownCells render offset)
      ++ (table.shownCells render offset).map (table.headerWidget render offset)
      ++ (store.markedRows table).flatMap fun row =>
        (table.shownCells render offset).map fun index =>
          .label (store.markedText table row index)
  /-- No row is drawn twice. -/
  rows_nodup : (store.markedRows table).Nodup
  /-- The positions stand from left to right. -/
  shown_ascending : (table.shownCells render offset).Pairwise (· < ·)
  /-- The row of a marked cell is drawn, and so is the position of the cell. -/
  complete : ∀ row ∈ table.rows, ∀ index < row.cells.length,
    store.marks (.cell table.id row.id index) = true →
      row ∈ store.markedRows table ∧ index ∈ table.shownCells render offset

section

variable {store : Store} (hdistinct : store.page.DistinctIds) {id : ElementId} {tags : List Tags}

include hdistinct

theorem get?_render (hholds : store.page.Holds id tags) :
    store.render.visibility.get? id =
      some (tags.all fun tags => tags.visible store.selection store.collapse) :=
  ((Page.Rearranged.refl store.page).get?_visibility hdistinct store.selection store.collapse).2
    ⟨tags, hholds, rfl⟩

theorem marks_eq (hholds : store.page.Holds id tags) :
    store.marks id = tags.all fun tags => tags.visible store.selection store.collapse := by
  rw [marks, get?_render hdistinct hholds]
  simp only [Option.some.injEq, Bool.decide_eq_true]

theorem isVisible_eq_marks (hholds : store.page.Holds id tags) (sort : Option SortReport) :
    Render.isVisible { store.render with sort } id = store.marks id := by
  rw [marks_eq hdistinct hholds, Render.isVisible]
  exact congrArg (fun found => found.getD true) (get?_render hdistinct hholds)

variable {table : Table} (htable : table ∈ store.page.tables) (sort : Option SortReport)

include htable

theorem visibleRows_eq_markedRows :
    table.visibleRows { store.render with sort } = store.markedRows table := by
  rw [visibleRows_eq store hdistinct.tables htable sort,
    Table.lastRows_of_nodup (hdistinct.rows table htable)]
  refine List.filter_congr fun row hrow => ?_
  rw [marks_eq hdistinct (.row htable hrow)]
  simp [Row.tags]

theorem drawnText_eq_markedText {row : Row} (hrow : row ∈ table.rows) (index : Nat) :
    table.drawnText { store.render with sort } row index = store.markedText table row index := by
  simp only [Table.drawnText, markedText]
  cases hcell : row.cells[index]? with
  | none => rfl
  | some cell =>
    rw [Render.cellVisible, isVisible_eq_marks hdistinct (.cell htable hrow hcell)]

/-- A marked cell stands in a marked row. -/
theorem mem_markedRows_of_marks {row : Row} (hrow : row ∈ table.rows) {index : Nat} {cell : Cell}
    (hcell : row.cells[index]? = some cell)
    (hmarks : store.marks (.cell table.id row.id index) = true) :
    row ∈ store.markedRows table := by
  rw [marks_eq hdistinct (.cell htable hrow hcell), List.all_cons, Bool.and_eq_true] at hmarks
  refine List.mem_filter.2 ⟨hrow, ?_⟩
  rw [marks_eq hdistinct (.row htable hrow), List.all_cons, hmarks.1]
  rfl

/-- A position is drawn where a row has a marked cell. -/
theorem mem_shownCells_of_marks (heven : table.Even) (offset : Nat) {row : Row}
    (hrow : row ∈ table.rows) {index : Nat} {cell : Cell} (hcell : row.cells[index]? = some cell)
    (hmarks : store.marks (.cell table.id row.id index) = true) :
    index ∈ table.shownCells { store.render with sort } offset := by
  have hindex := (List.getElem?_eq_some_iff.1 hcell).1
  have hdrawn := mem_markedRows_of_marks hdistinct htable hrow hcell hmarks
  rw [← visibleRows_eq_markedRows hdistinct htable sort] at hdrawn
  refine List.mem_filter.2 ⟨List.mem_range.2 ?_, ?_⟩
  · rwa [Table.drawnWidth_eq heven hrow]
  · simp only [Table.showsAt]
    split
    · rfl
    · rw [Bool.or_eq_true, List.any_eq_true]
      refine .inr ⟨row, hdrawn, ?_⟩
      rwa [Render.cellVisible, isVisible_eq_marks hdistinct (.cell htable hrow hcell)]

/-- Where names are distinct, a table is drawn as the store marks it. -/
theorem drawsBody (heven : table.Even) (offset : Nat) :
    store.DrawsBody { store.render with sort } offset table where
  rowOrder := rowOrder?_eq store hdistinct.tables htable none
  widgets := by
    rw [Table.widgets, visibleRows_eq_markedRows hdistinct htable]
    refine congrArg _ (List.flatMap_congr fun row hrow => List.map_congr_left fun index _ => ?_)
    rw [drawnText_eq_markedText hdistinct htable sort (List.mem_filter.1 hrow).1]
  rows_nodup := (List.Nodup.of_map Row.id (hdistinct.rows table htable)).filter _
  shown_ascending := List.pairwise_lt_range.filter _
  complete := by
    intro row hrow index hindex hmarks
    have hcell := List.getElem?_eq_getElem hindex
    exact ⟨mem_markedRows_of_marks hdistinct htable hrow hcell hmarks,
      mem_shownCells_of_marks hdistinct htable sort heven offset hrow hcell hmarks⟩

omit htable in
theorem elementWidgets_eq :
    store.page.elementWidgets { store.render with sort } =
      headedList "Charts & line scores"
        ((store.page.elements.filter fun element => store.marks (.element element.id)).map
          Element.line) := by
  have hvisible : store.page.visibleElements { store.render with sort } =
      store.page.elements.filter fun element => store.marks (.element element.id) :=
    List.filter_congr fun element helement =>
      isVisible_eq_marks hdistinct (.element helement) sort
  rw [Page.elementWidgets, hvisible, headedList]
  cases store.page.elements.filter fun element => store.marks (.element element.id) with
  | nil => rfl
  | cons element rest => simp

end

end Store

namespace Board

/-- Whatever is clicked on the board of a feed whose tables have distinct rows, the board draws what
    its store marks as shown: of each table the marked rows in their order, and in them the texts of
    the marked cells, and below the tables the marked elements. -/
theorem run_draws {every : Nat} {lines : List (Option String)} {outcome : FeedOutcome}
    (hread : (Feed.read every lines).1 = .ok outcome)
    (hrows : ∀ table ∈ outcome.page.tables, table.rowIds.Nodup) {settings : Settings}
    {frames : List (Int × List Nat)} {board : Board}
    (hrun : run { store := Store.new outcome.page settings } frames = some board) :
    (∀ table ∈ board.store.page.tables,
        board.store.DrawsBody board.render board.store.settings.cellOffset.toNat table) ∧
      board.store.page.elementWidgets board.render =
        headedList "Charts & line scores"
          ((board.store.page.elements.filter fun element =>
            board.store.marks (.element element.id)).map Element.line) := by
  have hshows := (shows_new outcome.page settings).run hrun
  have hrearranged := hshows.follows.rearranged
  have hdistinct := (Feed.distinctIds_of_read hread hrows).rearranged hrearranged
  have heven : ∀ table ∈ board.store.page.tables, table.Even := fun table htable =>
    hrearranged.even (Page.unevenRow?_eq_none_iff.1 (Feed.tables_of_read hread).2) htable
  obtain ⟨sort, hrender⟩ := hshows.render
  rw [hrender]
  exact ⟨fun table htable => Store.drawsBody hdistinct htable sort (heven table htable) _,
    Store.elementWidgets_eq hdistinct sort⟩

/-- A feed with two players. The first column goes with its round. -/
def twoCards : List String :=
  ["[\"page\",[\"Open\"]]",
    "[\"table\",\x7b\"id\":\"t\",\"columns\":[[\"R1\",1,true],[\"Total\"]],"
      ++ "\"groups\":[[1,\"One\"]]\x7d]",
    "[\"row\",\x7b\"table_id\":\"t\",\"id\":\"a\",\"player\":\"ann\",\"cells\":[\"Ann\","
      ++ "\x7b\"text\":\"3\",\"round\":1,\"hideable\":true\x7d,\"7\"]\x7d]",
    "[\"row\",\x7b\"table_id\":\"t\",\"id\":\"b\",\"player\":\"bob\",\"cells\":[\"Bob\","
      ++ "\x7b\"text\":\"4\",\"round\":1,\"hideable\":true\x7d,\"8\"]\x7d]",
    "[\"element\",\x7b\"id\":\"e\",\"player\":\"ann\",\"text\":\"3-4\"\x7d]",
    "[\"element\",\x7b\"id\":\"f\",\"player\":\"bob\",\"text\":\"4-4\"\x7d]"]

/-- The page of that feed. -/
def twoCardsPage : Page where
  title := "Open"
  year := none
  tables :=
    [{ id := "t"
       year := none
       leading := []
       columns := [⟨"R1", some ⟨1⟩, true⟩, ⟨"Total", none, false⟩]
       groups := [⟨⟨1⟩, "One", none⟩]
       rows :=
        [⟨"a", some ⟨"ann"⟩, none, [Cell.plain "Ann", ⟨"3", some ⟨1⟩, none, true⟩, Cell.plain "7"]⟩,
          ⟨"b", some ⟨"bob"⟩, none,
            [Cell.plain "Bob", ⟨"4", some ⟨1⟩, none, true⟩, Cell.plain "8"]⟩] }]
  elements :=
    [⟨"e", .other, some ⟨"ann"⟩, none, "3-4"⟩, ⟨"f", .other, some ⟨"bob"⟩, none, "4-4"⟩]

/-- Of one player and with the round collapsed, the board draws just what is marked. -/
theorem run_draws_twoCards :
    let start : Board := { store := Store.new twoCardsPage {} }
    (Feed.read 0 (twoCards.map some)).1 = .ok ⟨6, 0, twoCardsPage, []⟩ ∧
      (∀ table ∈ twoCardsPage.tables, table.rowIds.Nodup) ∧
      ∃ board, start.run [(2025, [4]), (2025, [10])] = some board ∧
        (board.store.page.tables.map fun table =>
          (board.store.markedRows table).map Row.id) = [["a"]] ∧
        (∀ table ∈ board.store.page.tables,
          board.store.DrawsBody board.render board.store.settings.cellOffset.toNat table) ∧
        board.store.page.elementWidgets board.render =
          headedList "Charts & line scores"
            ((board.store.page.elements.filter fun element =>
              board.store.marks (.element element.id)).map Element.line) := by
  intro start
  have hread : (Feed.read 0 (twoCards.map some)).1 = .ok ⟨6, 0, twoCardsPage, []⟩ := by
    decide +kernel
  have hrows : ∀ table ∈ twoCardsPage.tables, table.rowIds.Nodup := by decide
  have hmarked : (start.run [(2025, [4]), (2025, [10])]).map (fun board =>
      board.store.page.tables.map fun table =>
        (board.store.markedRows table).map Row.id) = some [["a"]] := by
    decide +kernel
  obtain ⟨board, hrun, hmarked⟩ := Option.map_eq_some_iff.1 hmarked
  exact ⟨hread, hrows, board, hrun, hmarked, run_draws hread hrows hrun⟩

end Board

end Scoreboard
