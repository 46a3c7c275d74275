import Scoreboard.Grid.Store
import Scoreboard.Proofs.Sort.Global

/-!
# Clicks on the headers of a page

A click on a header gives the rows of one table another order and notes the direction; it changes
nothing else.

## Main definitions

- `Page.withRows` — the page with other rows in one of its tables
- `Store.clicked` — the store after a click on the header of a column that the table has
- `Store.ClickGives` — a click is accepted, and the rows that it leaves have a property

## Main statements

- `Store.apply_headerClick` — what a click does, in every store
- `Store.headerClick_orders_rows` — when a click leaves no two rows out of order
-/

namespace Scoreboard

namespace Store

variable {α : Type} {test : α → Bool} {old new : α} {xs : List α}

/-- The first element that passes the test is replaced in its place. -/
theorem replaceFirst_of_find? (new : α) (h : xs.find? test = some old) :
    ∃ front back, xs = front ++ old :: back ∧ (∀ x ∈ front, test x = false) ∧
      replaceFirst test new xs = front ++ new :: back := by
  induction xs with
  | nil => cases h
  | cons x rest ih =>
    unfold replaceFirst
    cases hx : test x with
    | true =>
      rw [List.find?_cons_of_pos hx] at h
      cases h
      exact ⟨[], rest, rfl, by simp, rfl⟩
    | false =>
      rw [List.find?_cons_of_neg (by simp [hx])] at h
      obtain ⟨front, back, rfl, hfront, hreplace⟩ := ih h
      refine ⟨x :: front, back, rfl, ?_, ?_⟩
      · intro y hy
        rcases List.mem_cons.1 hy with rfl | hmem
        · exact hx
        · exact hfront y hmem
      · rw [hreplace]
        rfl

theorem find?_replaceFirst (hold : xs.find? test = some old) (hnew : test new = true) :
    (replaceFirst test new xs).find? test = some new := by
  obtain ⟨front, back, -, hfront, hreplace⟩ := replaceFirst_of_find? new hold
  have hnone : front.find? test = none := by
    rw [List.find?_eq_none]
    intro x hx
    simp [hfront x hx]
  rw [hreplace, List.find?_append, hnone, List.find?_cons_of_pos hnew]
  rfl

end Store

namespace Page

/-- The page with other rows in the first table of the name of `table`. -/
def withRows (page : Page) (table : Table) (rows : List Row) : Page :=
  { page with
    tables :=
      Store.replaceFirst (fun other => other.id = table.id) { table with rows } page.tables }

variable {page : Page} {tableId : String} {table : Table}

theorem id_of_table? (h : page.table? tableId = some table) : table.id = tableId := by
  simpa using List.find?_some h

theorem table?_withRows (h : page.table? tableId = some table) (rows : List Row) :
    (page.withRows table rows).table? tableId = some { table with rows } := by
  have hid := id_of_table? h
  subst hid
  exact Store.find?_replaceFirst h (by simp)

end Page

/-- A table with one column, which shows the texts. -/
def Table.ofTexts (texts : List String) : Table where
  id := "scores"
  year := none
  leading := [""]
  columns := [⟨"", none, false⟩]
  groups := []
  rows := texts.map fun text => ⟨text, none, none, [Cell.plain "", Cell.plain text]⟩

/-- The store of a page that holds nothing but such a table. -/
def Store.ofTexts (texts : List String) : Store :=
  Store.new ⟨"", none, [Table.ofTexts texts], []⟩ {}

namespace Store

variable (store : Store) (clock : Int) (table : Table) (column : Nat)

/-- The direction that a click on a column of a table asks for. -/
def requested : Direction :=
  Direction.next (store.indicators.direction? table.id column)

/-- What a click on a column of a table does to its rows. -/
def sorted : Sorted :=
  (store.comparison clock table column).sort (store.requested table column) table.rows

/-- The store after a click on a column of a table. -/
def clicked : Store :=
  { store with
    page := store.page.withRows table (store.sorted clock table column).rows
    indicators := store.indicators.insert table.id ⟨column, store.requested table column⟩ }

/-- The report of a click on a column of a table. -/
def clickReport : SortReport where
  tableId := table.id
  column := column
  requested := store.requested table column
  applied := (store.sorted clock table column).applied
  flipped := (store.sorted clock table column).flipped
  swaps := (store.sorted clock table column).swaps
  before := table.rowIds
  after := (store.sorted clock table column).rows.map Row.id

variable {store clock table column}

/-- A click is refused if there is no such table or column. Otherwise it sorts the table. -/
theorem apply_headerClick (store : Store) (clock : Int) (tableId : String) (column : UInt64) :
    store.apply clock (.headerClick tableId column) =
      match store.page.table? tableId with
      | none => .error (.tableNotFound tableId)
      | some table =>
        if column.toNat < table.columns.length then
          .ok (store.clicked clock table column.toNat,
            some (store.clickReport clock table column.toNat))
        else
          .error (.columnOutOfRange table.id column.toNat table.columns.length) := by
  cases htable : store.page.table? tableId with
  | none => simp only [apply, click, htable]; rfl
  | some table =>
    have hid := Page.id_of_table? htable
    subst hid
    simp only [apply, click, htable, Table.click, comparison]
    by_cases hcolumn : column.toNat < table.columns.length
    · simp only [hcolumn, if_true]
      rfl
    · simp only [hcolumn, if_false]
      rfl

theorem apply_headerClick_of_table? {tableId : String} {column : UInt64}
    (htable : store.page.table? tableId = some table)
    (hcolumn : column.toNat < table.columns.length) :
    store.apply clock (.headerClick tableId column) =
      .ok (store.clicked clock table column.toNat,
        some (store.clickReport clock table column.toNat)) := by
  rw [apply_headerClick, htable]
  exact if_pos hcolumn

/-- A click on the header of a column is accepted. It reports a direction, and leaves the table with
    rows, that have a property. -/
def ClickGives (store : Store) (clock : Int) (tableId : String) (column : UInt64)
    (holds : Direction → List Row → Prop) : Prop :=
  ∃ store' report table',
    store.apply clock (.headerClick tableId column) = .ok (store', some report) ∧
    store'.page.table? tableId = some table' ∧ holds report.applied table'.rows

theorem clickGives_of_sorted {tableId : String} {column : UInt64}
    {holds : Direction → List Row → Prop} (htable : store.page.table? tableId = some table)
    (hcolumn : column.toNat < table.columns.length)
    (h : holds (store.sorted clock table column.toNat).applied
      (store.sorted clock table column.toNat).rows) :
    store.ClickGives clock tableId column holds :=
  ⟨_, _, _, apply_headerClick_of_table? htable hcolumn, Page.table?_withRows htable _, h⟩

/-- In a column where every row has a cell and none shows a moment, a click puts all rows in the
    direction that it applies, not only neighbours, as long as no plain text stands by its key
    between two numbers that are not in the same strict order by value. Where one does, there is an
    arrangement of the rows that a click does not put in order; and if the two numbers are the other
    way round, no click ever does. -/
theorem headerClick_orders_rows (store : Store) (clock : Int) (tableId : String) (column : UInt64)
    (table : Table) (htable : store.page.table? tableId = some table)
    (hcolumn : column.toNat < table.columns.length)
    (hplain : (store.comparison clock table column.toNat).Unstamped table.rows) :
    let comparison := store.comparison clock table column.toNat
    let order := CellValue.compare? comparison.year
    ((∀ low high, comparison.Wedged table.rows low high → order low high = some .lt) →
        store.ClickGives clock tableId column comparison.Ordered) ∧
      (∀ low high, comparison.Wedged table.rows low high → order low high ≠ some .lt →
        ∃ rows, rows.Perm table.rows ∧
          { store with page := store.page.withRows table rows }.ClickGives clock tableId column
            fun applied rows => ¬ comparison.Ordered applied rows) ∧
      ∀ low high, comparison.Wedged table.rows low high → order low high = some .gt →
        store.ClickGives clock tableId column fun applied rows =>
          ¬ comparison.Ordered applied rows := by
  intro comparison order
  refine ⟨?_, ?_, ?_⟩
  · intro hwedged
    exact clickGives_of_sorted htable hcolumn (Comparison.ordered_sort hplain hwedged _)
  · intro low high hwedged hne
    obtain ⟨rows, hperm, hnot⟩ :=
      Comparison.exists_not_ordered_sort hwedged hne (store.requested table column.toNat)
    -- With its rows in another order the table has the same columns and the same year.
    have htable' := Page.table?_withRows htable rows
    exact ⟨rows, hperm, clickGives_of_sorted htable' hcolumn hnot⟩
  · intro low high hwedged hgt
    have hperm : (store.sorted clock table column.toNat).rows.Perm table.rows :=
      Comparison.sort_perm ..
    exact clickGives_of_sorted htable hcolumn (Comparison.not_ordered_of_gt hwedged hgt _ hperm)

/-- The point stands between -2 and 1, by key as by value, and a click puts all three in order. -/
theorem headerClick_orders_point :
    let table := Table.ofTexts ["1", ".", "-2"]
    let store := Store.ofTexts ["1", ".", "-2"]
    let comparison := store.comparison 2025 table 0
    store.page.table? "scores" = some table ∧ 0 < table.columns.length ∧
      comparison.Unstamped table.rows ∧ comparison.Wedged table.rows "-2" "1" ∧
      store.ClickGives 2025 "scores" 0 comparison.Ordered := by
  intro table store comparison
  have htable : store.page.table? "scores" = some table := by decide
  have hplain : comparison.Unstamped table.rows := by decide +kernel
  have hwedged : ∀ low ∈ table.rows.filterMap comparison.text?,
      ∀ high ∈ table.rows.filterMap comparison.text?,
      ∀ middle ∈ table.rows.filterMap comparison.text?,
        CellValue.Between comparison.year low middle high →
          CellValue.compare? comparison.year low high = some .lt := by
    decide +kernel
  have hpoint : comparison.Wedged table.rows "-2" "1" :=
    ⟨by decide, by decide, ".", by decide, by decide +kernel⟩
  refine ⟨htable, by decide, hplain, hpoint, ?_⟩
  refine (headerClick_orders_rows store 2025 "scores" 0 table htable (by decide) hplain).1 ?_
  rintro low high ⟨hlow, hhigh, middle, hmiddle, hbetween⟩
  exact hwedged low hlow high hhigh middle hmiddle hbetween

/-- The minus sign stands between +3 and 3, by key, and a click leaves it ahead of both. -/
theorem headerClick_not_ordered_sign :
    let table := Table.ofTexts ["3", "-", "+3"]
    let store := Store.ofTexts ["3", "-", "+3"]
    let comparison := store.comparison 2025 table 0
    store.page.table? "scores" = some table ∧ 0 < table.columns.length ∧
      comparison.Unstamped table.rows ∧
      store.apply 2025 (.headerClick "scores" 0) =
        .ok (store.clicked 2025 table 0, some (store.clickReport 2025 table 0)) ∧
      (store.clickReport 2025 table 0).applied = .ascending ∧
      (store.clicked 2025 table 0).page.table? "scores" = some (Table.ofTexts ["-", "3", "+3"]) ∧
      ¬ comparison.Ordered .ascending (Table.ofTexts ["-", "3", "+3"]).rows := by
  intro table store comparison
  have htable : store.page.table? "scores" = some table := by decide
  refine ⟨htable, by decide, by decide +kernel, ?_, by decide +kernel, by decide +kernel,
    by decide +kernel⟩
  exact apply_headerClick_of_table? htable (by decide)

end Store

end Scoreboard
