import Mathlib.Data.List.Nodup
import Scoreboard.Proofs.Feed.Account
import Scoreboard.Proofs.Feed.Lines
import Scoreboard.Proofs.Feed.Refusal
import Scoreboard.Proofs.Feed.Written
import Scoreboard.Proofs.Page.WellFormed

/-!
# A page as a feed

A page is written as a feed by its page data, then every table with some of its rows and the other
rows one by one, then the elements. What is read from this feed is the page, if its names are
distinct and its tables are even.

The two halves of the proof meet at `Page.Builds`: entries that each bring something new make a page
of another one. Reading such entries is to build the page, and the entries of a page build it.

## Main definitions

- `Page.feed` — the lines of a page as a feed
- `Page.Adds`, `Page.Builds` — entries that each bring something new to a page
- `Draft.Makes` — a draft comes to a page, without any warnings

## Main statements

- `Page.builds_parts` — the parts of a page build it
- `Draft.Makes.add` — an entry that brings something new brings it to a draft as well
- `Feed.readLines_builds` — lines of such entries are read without errors
- `Feed.read_feed` — a page is read from the feed it is written as
-/

namespace Scoreboard

/-- The entries of a table: the table with so many of its rows, and the other rows one by one. -/
def Table.entries (table : Table) (inline : Nat) : List Entry :=
  .table { table with rows := table.rows.take inline } ::
    (table.rows.drop inline).map fun row => .row ⟨table.id, row⟩

namespace Page

/-- The entries of a page after its data: its tables, with so many rows of each written along with
    it, and its elements. -/
def parts (page : Page) (inline : Table → Nat) : List Entry :=
  (page.tables.flatMap fun table => table.entries (inline table)) ++ page.elements.map .element

/-- The lines of a page as a feed: its data, then all the rest. -/
def feed (page : Page) (inline : Table → Nat) : List String :=
  ((.page ⟨page.title, page.year⟩ : Entry) :: page.parts inline).map Entry.line

/-- An entry brings something new to a page: a table or an element of a new name at the end, or a
    row of a new name at the bottom of the last table. -/
inductive Adds : Page → Entry → Page → Prop
  | table {page : Page} {table : Table} (hnew : table.id ∉ page.tables.map Table.id) :
      Adds page (.table table) { page with tables := page.tables ++ [table] }
  | row {page : Page} {tables : List Table} {table : Table} {row : Row}
      (htable : table.id ∉ tables.map Table.id) (hnew : row.id ∉ table.rowIds) :
      Adds { page with tables := tables ++ [table] } (.row ⟨table.id, row⟩)
        { page with tables := tables ++ [{ table with rows := table.rows ++ [row] }] }
  | element {page : Page} {element : Element} (hnew : element.id ∉ page.elements.map Element.id) :
      Adds page (.element element) { page with elements := page.elements ++ [element] }

/-- Entries that each bring something new make a page of another one. -/
inductive Builds : Page → List Entry → Page → Prop
  | nil (page : Page) : Builds page [] page
  | cons {page page' page'' : Page} {entry : Entry} {rest : List Entry}
      (hadds : Adds page entry page') (hrest : Builds page' rest page'') :
      Builds page (entry :: rest) page''

theorem Builds.append {page page' page'' : Page} {entries later : List Entry}
    (h : Builds page entries page') (hlater : Builds page' later page'') :
    Builds page (entries ++ later) page'' := by
  induction h with
  | nil page => exact hlater
  | cons hadds _ ih => exact .cons hadds (ih hlater)

section

variable (page : Page)

theorem builds_rows {tables : List Table} {table : Table}
    (htable : table.id ∉ tables.map Table.id) {rows later : List Row}
    (hrows : ((rows ++ later).map Row.id).Nodup) :
    Builds { page with tables := tables ++ [{ table with rows }] }
      (later.map fun row => .row ⟨table.id, row⟩)
      { page with tables := tables ++ [{ table with rows := rows ++ later }] } := by
  induction later generalizing rows with
  | nil =>
    rw [List.append_nil]
    exact .nil _
  | cons row rest ih =>
    have hnew : row.id ∉ Table.rowIds { table with rows } := List.notMem_of_nodup_map hrows
    rw [List.append_cons rows row rest] at hrows ⊢
    exact .cons (.row htable hnew) (ih hrows)

theorem builds_tables (inline : Table → Nat) {tables later : List Table}
    (htables : ((tables ++ later).map Table.id).Nodup)
    (hrows : ∀ table ∈ later, table.rowIds.Nodup) :
    Builds { page with tables } (later.flatMap fun table => table.entries (inline table))
      { page with tables := tables ++ later } := by
  induction later generalizing tables with
  | nil =>
    rw [List.append_nil]
    exact .nil _
  | cons table rest ih =>
    obtain ⟨htable, hrest⟩ := List.forall_mem_cons.1 hrows
    have hnew := List.notMem_of_nodup_map htables
    have hsplit := List.take_append_drop (inline table) table.rows
    have hids : ((table.rows.take (inline table) ++ table.rows.drop (inline table)).map
        Row.id).Nodup := by
      rw [hsplit]
      exact htable
    have hbuilds := builds_rows page hnew hids
    rw [hsplit] at hbuilds
    rw [List.append_cons] at htables ⊢
    exact .cons (.table hnew) (hbuilds.append (ih htables hrest))

theorem builds_elements {elements later : List Element}
    (helements : ((elements ++ later).map Element.id).Nodup) :
    Builds { page with elements } (later.map .element)
      { page with elements := elements ++ later } := by
  induction later generalizing elements with
  | nil =>
    rw [List.append_nil]
    exact .nil _
  | cons element rest ih =>
    have hnew := List.notMem_of_nodup_map helements
    rw [List.append_cons] at helements ⊢
    exact .cons (.element hnew) (ih helements)

/-- The parts of a page build it from nothing but its data. -/
theorem builds_parts (hdistinct : page.DistinctIds) (inline : Table → Nat) :
    Builds ⟨page.title, page.year, [], []⟩ (page.parts inline) page := by
  have htables : (([] ++ page.tables).map Table.id).Nodup := hdistinct.tables
  have helements : (([] ++ page.elements).map Element.id).Nodup := hdistinct.elements
  exact (builds_tables ⟨page.title, page.year, [], []⟩ inline htables hdistinct.rows).append
    (builds_elements page helements)

end

end Page

namespace Draft

/-- A draft comes to a page, without any warnings. -/
structure Makes (draft : Draft) (page : Page) : Prop where
  info : draft.info = some ⟨page.title, page.year⟩
  tables : draft.tables.items = page.tables
  tablesIndexed : draft.tables.Indexed Table.id
  elements : draft.elements.items = page.elements
  elementsIndexed : draft.elements.Indexed Element.id
  warnings : draft.warnings = []

namespace Makes

variable {draft : Draft} {page page' : Page} {entry : Entry}

theorem start (info : PageInfo) (line : Nat) :
    ({} : Draft).add line (.page info) |>.Makes ⟨info.title, info.year, [], []⟩ where
  info := rfl
  tables := rfl
  tablesIndexed := Roster.Lists.empty.indexed
  elements := rfl
  elementsIndexed := Roster.Lists.empty.indexed
  warnings := rfl

/-- An entry that brings something new brings it to a draft as well. -/
theorem add (h : draft.Makes page) (hadds : page.Adds entry page') (line : Nat) :
    (draft.add line entry).Makes page' := by
  cases hadds with
  | @table page table hnew =>
    rw [← h.tables] at hnew
    obtain ⟨hitems, hindexed, hagain⟩ := h.tablesIndexed.put_of_new hnew
    show (draft.putTable line table).Makes _
    rw [putTable_eq, hagain]
    exact {
      info := h.info
      tables := by rw [hitems, h.tables]
      tablesIndexed := hindexed
      elements := h.elements
      elementsIndexed := h.elementsIndexed
      warnings := by rw [h.warnings]; rfl }
  | @element page element hnew =>
    rw [← h.elements] at hnew
    obtain ⟨hitems, hindexed, hagain⟩ := h.elementsIndexed.put_of_new hnew
    show (draft.putElement line element).Makes _
    rw [putElement_eq, hagain]
    exact {
      info := h.info
      tables := h.tables
      tablesIndexed := h.tablesIndexed
      elements := by rw [hitems, h.elements]
      elementsIndexed := hindexed
      warnings := by rw [h.warnings]; rfl }
  | @row page tables table row htable hnew =>
    have hitems : draft.tables.items = tables ++ [table] := h.tables
    let record : RowRecord := ⟨table.id, row⟩
    have hplace : draft.tables.find? record.tableId = some tables.length := by
      rw [h.tablesIndexed, hitems]
      simp [record]
    have hlast : draft.tables.items[tables.length]? = some table := by
      rw [hitems]
      simp
    have hrow : (table.rows.any fun other => other.id = row.id) = false := by
      simpa [Table.rowIds] using hnew
    let placed (other : Table) : Table := { other with rows := placeRow other.rows row }
    have hplaced : placed table = { table with rows := table.rows ++ [row] } := by
      simp only [placed, placeRow, hrow, Bool.false_eq_true, if_false]
    have hothers : ∀ other ∈ tables,
        (if other.id = table.id then placed other else other) = other :=
      fun other hother => if_neg fun hid => htable (List.mem_map.2 ⟨other, hother, hid⟩)
    have hindexed : (draft.tables.modify tables.length placed).Indexed Table.id :=
      h.tablesIndexed.modify hplace fun other hid => hid
    have hmodified : (draft.tables.modify tables.length placed).items =
        tables ++ [{ table with rows := table.rows ++ [row] }] := by
      rw [h.tablesIndexed.items_modify hplace, hitems, List.map_append,
        List.map_congr_left hothers, List.map_id', List.map_singleton, if_pos rfl, hplaced]
    show (draft.putRow line record).Makes _
    rw [putRow_of_some _ _ hplace, hlast, Option.any_some, hrow]
    exact {
      info := h.info
      tables := hmodified
      tablesIndexed := hindexed
      elements := h.elements
      elementsIndexed := h.elementsIndexed
      warnings := by rw [h.warnings]; rfl }

end Makes

end Draft

namespace Feed

/-- Lines of entries that each bring something new are read without errors. -/
theorem readLines_builds (every : Nat) {page page' : Page} {entries : List Entry}
    (hbuilds : page.Builds entries page') {draft : Draft} (h : draft.Makes page)
    (number errors : Nat) :
    ∃ draft', draft'.Makes page' ∧
      (readLines every ⟨number, errors, draft⟩ (entries.map fun entry => some entry.line)).1 =
        .ok ⟨number + entries.length, errors, draft'⟩ := by
  induction hbuilds generalizing draft number with
  | nil page => exact ⟨draft, h, rfl⟩
  | @cons page _ _ entry rest hadds _ ih =>
    have hinfo : draft.info.isSome = true ∨ entry.page?.isSome = true :=
      .inl (by rw [h.info]; rfl)
    have hline : readLine every ⟨number, errors, draft⟩ entry.line = _ :=
      readLine_of_ok (takeLine_line hinfo (number + 1))
    obtain ⟨draft', hdraft', hread⟩ := ih (h.add hadds (number + 1)) (number + 1)
    refine ⟨draft', hdraft', ?_⟩
    rw [List.map_cons, readLines, hline, List.length_cons, Nat.add_comm rest.length 1,
      ← Nat.add_assoc]
    exact hread

/-- A page of distinct names and even tables is read from the feed it is written as, however many
    rows are written along with the tables. No line is refused, and there is nothing to warn of. -/
theorem read_feed {page : Page} (hdistinct : page.DistinctIds)
    (heven : ∀ table ∈ page.tables, table.Even) (inline : Table → Nat) (every : Nat) :
    (read every (lines (bytesOf (textOf (page.feed inline))))).1 =
      .ok ⟨(page.feed inline).length, 0, page, []⟩ := by
  have hlines : lines (bytesOf (textOf (page.feed inline))) = (page.feed inline).map some := by
    refine lines_bytesOf_textOf fun line hline => ?_
    obtain ⟨entry, -, rfl⟩ := List.mem_map.1 hline
    exact entry.visible_line
  have hfirst : readLine every {} (Entry.page ⟨page.title, page.year⟩).line = _ :=
    readLine_of_ok (takeLine_line (.inr rfl) 1)
  obtain ⟨draft, hdraft, hread⟩ := readLines_builds every (page.builds_parts hdistinct inline)
    (Draft.Makes.start ⟨page.title, page.year⟩ 1) 1 0
  have hresult : (readLines every {} ((page.feed inline).map some)).1 =
      .ok ⟨(page.feed inline).length, 0, draft⟩ := by
    rw [Nat.add_comm 1] at hread
    simp only [Page.feed, List.map_cons, List.map_map, List.length_cons, List.length_map, readLines,
      hfirst]
    exact hread
  have hpage : draft.page? = some page := by
    unfold Draft.page?
    rw [hdraft.info, hdraft.tables, hdraft.elements]
    rfl
  show (readLines every {} (lines (bytesOf (textOf (page.feed inline))))).1.bind finish = _
  rw [hlines, hresult]
  show finish _ = _
  unfold finish
  simp only [hpage, Page.unevenRow?_eq_none_iff.2 heven, hdraft.warnings]

/-- A page with a table of two rows, a table without any, and an element, in which texts hold
    whatever has to be escaped. -/
def twoTables : Page where
  title := "Open \"A\" \\ B"
  year := some (-44)
  tables := [
    ⟨"scores", none, ["#"], [⟨"Räts\tel", some ⟨1⟩, true⟩], [⟨⟨1⟩, "Round 1", none⟩],
      [⟨"a", some ⟨"Ada"⟩, none, [⟨"3.5", some ⟨1⟩, none, true⟩]⟩,
        ⟨"b", none, some ⟨4294967295⟩, [Cell.plain "\n😀"]⟩]⟩,
    ⟨"rest", some 1999, [], [], [], []⟩]
  elements := [⟨"chart", .chart, none, some ⟨2⟩, ""⟩]

/-- The first row is written along with its table, the second one has a line of its own. -/
theorem read_feed_twoTables :
    twoTables.DistinctIds ∧ (∀ table ∈ twoTables.tables, table.Even) ∧
      (read 2 (lines (bytesOf (textOf (twoTables.feed fun _ => 1))))).1 =
        .ok ⟨5, 0, twoTables, []⟩ := by
  have hdistinct : twoTables.DistinctIds := ⟨by decide, by decide, by decide⟩
  have heven : ∀ table ∈ twoTables.tables, table.Even := by decide
  exact ⟨hdistinct, heven, read_feed hdistinct heven (fun _ => 1) 2⟩

end Feed

end Scoreboard
