import Scoreboard.Proofs.Feed.Distinct
import Scoreboard.Proofs.Feed.Told
import Scoreboard.Proofs.List
import Scoreboard.Proofs.Screen.Table

/-!
# Which feeds make a page

A feed makes a page if all of it is text, a page record is among it, and the page that it comes to
in the end has even tables. Otherwise the first of these that fails is the reason. Even tables stay
even whatever events come, so a click never finds the compared cell in some rows only.

## Main definitions

- `Page.FirstUneven` — the first uneven row of the first uneven table
- `Feed.DescribesPage` — a feed has a page record that counts
- `Feed.Refused` — why a feed makes no page

## Main statements

- `Page.unevenRow?_eq_some_iff` — the uneven row that is found is the first one
- `Feed.refused_or_even` — what a feed is refused for, or the even page that it comes to
- `Feed.read_verdict` — which feeds make a page, why others do not, and how the page stays even
-/

namespace Scoreboard

/-- A row that is not as wide as the first row of its table, while all rows above it are. -/
def Table.FirstUneven (table : Table) (uneven : UnevenRow) : Prop :=
  ∃ first front row back, table.rows = first :: (front ++ row :: back) ∧
    (∀ other ∈ front, other.cells.length = first.cells.length) ∧
      row.cells.length ≠ first.cells.length ∧
        uneven = ⟨table.id, row.id, row.cells.length, first.cells.length⟩

/-- The first uneven row of a table, while all tables above it are even. -/
def Page.FirstUneven (page : Page) (uneven : UnevenRow) : Prop :=
  ∃ before table after, page.tables = before ++ table :: after ∧
    (∀ other ∈ before, other.Even) ∧ table.FirstUneven uneven

theorem Table.unevenRow?_eq_some_iff {table : Table} {uneven : UnevenRow} :
    table.unevenRow? = some uneven ↔ table.FirstUneven uneven := by
  unfold unevenRow? FirstUneven
  split
  · next hrows => simp [hrows]
  · next first rest hrows =>
    rw [Option.map_eq_some_iff]
    constructor
    · rintro ⟨row, hfind, rfl⟩
      obtain ⟨hrow, front, back, rfl, hfront⟩ := List.find?_eq_some_iff_append.1 hfind
      exact ⟨first, front, row, back, hrows, by simpa using hfront, by simpa using hrow, rfl⟩
    · rintro ⟨first', front, row, back, hrows', hfront, hrow, rfl⟩
      obtain ⟨rfl, rfl⟩ := List.cons.inj (hrows.symm.trans hrows')
      refine ⟨row, List.find?_eq_some_iff_append.2 ⟨?_, front, back, rfl, ?_⟩, rfl⟩
      · simpa using hrow
      · simpa using hfront

theorem Page.unevenRow?_eq_some_iff {page : Page} {uneven : UnevenRow} :
    page.unevenRow? = some uneven ↔ page.FirstUneven uneven := by
  simp only [unevenRow?, FirstUneven, List.findSome?_eq_some_iff, Table.unevenRow?_eq_none_iff,
    Table.unevenRow?_eq_some_iff]
  constructor
  · rintro ⟨before, table, after, htables, huneven, hbefore⟩
    exact ⟨before, table, after, htables, hbefore, huneven⟩
  · rintro ⟨before, table, after, htables, hbefore, huneven⟩
    exact ⟨before, table, after, htables, huneven, hbefore⟩

theorem Page.Rearranged.unevenRow?_eq_none {page page' : Page} (h : page.Rearranged page')
    (heven : page.unevenRow? = none) : page'.unevenRow? = none :=
  unevenRow?_eq_none_iff.2 fun _ => h.even (unevenRow?_eq_none_iff.1 heven)

/-- In an even table, all rows have the compared cell or none has. -/
theorem Table.Even.all_text? {table : Table} (h : table.Even) (comparison : Comparison) :
    (∀ row ∈ table.rows, (comparison.text? row).isSome = true) ∨
      ∀ row ∈ table.rows, comparison.text? row = none := by
  have hcell (row : Row) : (comparison.text? row).isSome = true ↔
      comparison.column + comparison.offset < row.cells.length := by
    simp [Comparison.text?]
  by_cases hall : ∀ row ∈ table.rows, (comparison.text? row).isSome = true
  · exact .inl hall
  · refine .inr fun row hrow => ?_
    obtain ⟨other, hother, hnone⟩ :
        ∃ other ∈ table.rows, ¬(comparison.text? other).isSome = true := by
      simpa using hall
    rw [hcell, h other hother row hrow, ← hcell] at hnone
    simpa using hnone

namespace Feed

variable {lines : List (Option String)}

/-- Some line of the feed is a page record that counts. -/
def DescribesPage (lines : List (Option String)) : Prop :=
  ∃ line info, some line ∈ lines ∧ Entry.ofLine? line = some (.page info)

/-- Why a feed makes no page. A line that is no text goes before a missing page record, and that
    before an uneven row. -/
inductive Refused (lines : List (Option String)) : FeedFailure → Prop where
  | notText (h : none ∈ lines) : Refused lines .notText
  | noPage (htext : none ∉ lines) (hpage : ¬DescribesPage lines) : Refused lines .noPage
  /-- The page that the feed comes to in the end has an uneven row. -/
  | uneven {page : Page} {row : UnevenRow} (htext : none ∉ lines)
      (hpage : pageOf? (entriesOf lines) = some page) (huneven : page.FirstUneven row) :
      Refused lines (.uneven row)

theorem map_snd_described (first : Nat) (texts : List String) :
    (described first texts).map Prod.snd = texts.filterMap Entry.ofLine? := by
  induction texts generalizing first with
  | nil => rfl
  | cons line rest ih =>
    rw [described, List.map_append, ih]
    cases h : Entry.ofLine? line with
    | none => rw [List.filterMap_cons_none h]; rfl
    | some entry => rw [List.filterMap_cons_some h]; rfl

/-- What comes ahead of the first page record holds no page data. -/
theorem filterMap_page?_entriesOf (lines : List (Option String)) :
    (entriesOf lines).filterMap Entry.page? =
      ((lines.filterMap id).filterMap Entry.ofLine?).filterMap Entry.page? := by
  rw [← map_snd_described 1, ← List.filterMap_dropWhile_isNone Entry.page? (List.map _ _),
    List.dropWhile_map]
  rfl

/-- A feed comes to no page just if none of its lines is a page record that counts. -/
theorem pageOf?_eq_none_iff : pageOf? (entriesOf lines) = none ↔ ¬DescribesPage lines := by
  unfold pageOf? DescribesPage
  rw [Option.map_eq_none_iff, List.getLast?_eq_none_iff, filterMap_page?_entriesOf,
    List.filterMap_eq_nil_iff]
  constructor
  · rintro hnone ⟨line, info, hline, hpage⟩
    have hmem : Entry.page info ∈ (lines.filterMap id).filterMap Entry.ofLine? :=
      List.mem_filterMap.2 ⟨line, List.mem_filterMap.2 ⟨_, hline, rfl⟩, hpage⟩
    cases hnone _ hmem
  · intro hnone entry hentry
    obtain ⟨line, hline, hentry⟩ := List.mem_filterMap.1 hentry
    obtain ⟨_, hline, rfl⟩ := List.mem_filterMap.1 hline
    cases entry with
    | page info => exact absurd ⟨line, info, hline, hentry⟩ hnone
    | _ => rfl

/-- A feed all of whose lines are text is read to its end, and comes to the page of its entries. -/
theorem read_of_texts (every : Nat) (htext : none ∉ lines) :
    ∃ reading, (read every lines).1 = finish reading ∧
      reading.draft.page? = pageOf? (entriesOf lines) := by
  have htexts : lines = (lines.filterMap id).map some := by
    rcases exists_textLines lines with h | ⟨rest, h⟩
    · rw [h]
      simp
    · rw [h] at htext
      simp at htext
  obtain ⟨reading, hread, hpage, -⟩ := readLines_describes every (lines.filterMap id)
  rw [← htexts] at hread
  refine ⟨reading, ?_, hpage⟩
  show (readLines every {} lines).1.bind finish = _
  rw [hread]
  rfl

/-- A feed that is text and comes to an even page makes that page. -/
theorem exists_read_of_even (every : Nat) {page : Page} (htext : none ∉ lines)
    (hpage : pageOf? (entriesOf lines) = some page) (heven : page.unevenRow? = none) :
    ∃ outcome, (read every lines).1 = .ok outcome ∧ outcome.page = page := by
  obtain ⟨reading, hread, hreading⟩ := read_of_texts every htext
  refine ⟨⟨reading.lines, reading.errors, page, reading.draft.warnings⟩, ?_, rfl⟩
  rw [hread, finish, hreading, hpage]
  simp only [heven]

theorem Refused.read_eq {failure : FeedFailure} (h : Refused lines failure) (every : Nat) :
    (read every lines).1 = .error failure := by
  cases h with
  | notText hnone =>
    rcases exists_textLines lines with h | ⟨rest, h⟩
    · rw [h] at hnone
      simp at hnone
    · rw [h, read, readLines_none]
      rfl
  | noPage htext hpage =>
    obtain ⟨reading, hread, hreading⟩ := read_of_texts every htext
    rw [hread, finish, hreading, pageOf?_eq_none_iff.2 hpage]
  | uneven htext hpage huneven =>
    obtain ⟨reading, hread, hreading⟩ := read_of_texts every htext
    rw [hread, finish, hreading, hpage]
    simp only [Page.unevenRow?_eq_some_iff.2 huneven]

/-- There is a reason to refuse a feed, unless it is text and comes to an even page. -/
theorem refused_or_even (lines : List (Option String)) :
    (∃ failure, Refused lines failure) ∨
      none ∉ lines ∧ ∃ page, pageOf? (entriesOf lines) = some page ∧ page.unevenRow? = none := by
  by_cases htext : none ∈ lines
  · exact .inl ⟨.notText, .notText htext⟩
  · cases hpage : pageOf? (entriesOf lines) with
    | none => exact .inl ⟨.noPage, .noPage htext (pageOf?_eq_none_iff.1 hpage)⟩
    | some page =>
      cases huneven : page.unevenRow? with
      | none => exact .inr ⟨htext, page, rfl, huneven⟩
      | some row =>
        exact .inl ⟨.uneven row, .uneven htext hpage (Page.unevenRow?_eq_some_iff.1 huneven)⟩

theorem read_eq_error_iff {every : Nat} {failure : FeedFailure} :
    (read every lines).1 = .error failure ↔ Refused lines failure := by
  refine ⟨fun hread => ?_, fun h => h.read_eq every⟩
  rcases refused_or_even lines with ⟨failure', hrefused⟩ | ⟨htext, page, hpage, heven⟩
  · obtain rfl := Except.error.inj ((hrefused.read_eq every).symm.trans hread)
    exact hrefused
  · obtain ⟨outcome, hok, -⟩ := exists_read_of_even every htext hpage heven
    rw [hok] at hread
    cases hread

/-- A feed that makes a page is text, and its page is the even one that it comes to. -/
theorem even_of_read {every : Nat} {outcome : FeedOutcome}
    (h : (read every lines).1 = .ok outcome) :
    none ∉ lines ∧ pageOf? (entriesOf lines) = some outcome.page ∧
      outcome.page.unevenRow? = none := by
  obtain ⟨draft, haccounts, hpage, heven⟩ := read_accounts h
  refine ⟨fun hnone => ?_, haccounts.page?_eq.symm.trans hpage, heven⟩
  rw [(Refused.notText hnone).read_eq every] at h
  cases h

theorem exists_read_eq_ok_iff {every : Nat} :
    (∃ outcome, (read every lines).1 = .ok outcome) ↔
      none ∉ lines ∧ DescribesPage lines ∧
        ∀ page, pageOf? (entriesOf lines) = some page → ∀ table ∈ page.tables, table.Even := by
  constructor
  · rintro ⟨outcome, houtcome⟩
    obtain ⟨htext, hpage, heven⟩ := even_of_read houtcome
    refine ⟨htext, ?_, ?_⟩
    · by_contra hnone
      rw [pageOf?_eq_none_iff.2 hnone] at hpage
      cases hpage
    · intro page hpage'
      obtain rfl := Option.some.inj (hpage.symm.trans hpage')
      exact Page.unevenRow?_eq_none_iff.1 heven
  · rintro ⟨htext, hdescribes, heven⟩
    obtain ⟨page, hpage⟩ := Option.ne_none_iff_exists'.1
      (mt pageOf?_eq_none_iff.1 (not_not.2 hdescribes))
    obtain ⟨outcome, hok, -⟩ := exists_read_of_even every htext hpage
      (Page.unevenRow?_eq_none_iff.2 (heven page hpage))
    exact ⟨outcome, hok⟩

/-- A feed makes a page just if all its lines are text, one of them is a page record that counts,
    and the tables of the page that it comes to in the end are even. Otherwise it is refused for the
    first of these that fails, where nothing from the first line on that is no text plays any part.
    A page that is even stays so whatever events come, so a click on one of its tables finds the
    compared cell in all rows or in none. -/
theorem read_verdict (every : Nat) (lines : List (Option String)) :
    ((∃ outcome, (read every lines).1 = .ok outcome) ↔
        none ∉ lines ∧ DescribesPage lines ∧
          ∀ page, pageOf? (entriesOf lines) = some page → ∀ table ∈ page.tables, table.Even) ∧
      (∀ failure, (read every lines).1 = .error failure ↔ Refused lines failure) ∧
      (∀ texts rest, lines = texts.map some ++ none :: rest →
        read every lines = (.error .notText, toldLines every texts)) ∧
      ∀ outcome, (read every lines).1 = .ok outcome →
        pageOf? (entriesOf lines) = some outcome.page ∧
          ∀ settings events,
            let store := (Store.new outcome.page settings).run events
            store.page.unevenRow? = none ∧ ∀ table ∈ store.page.tables, ∀ clock column,
              let comparison := store.comparison clock table column
              (∀ row ∈ table.rows, (comparison.text? row).isSome = true) ∨
                ∀ row ∈ table.rows, comparison.text? row = none := by
  refine ⟨exists_read_eq_ok_iff, fun failure => read_eq_error_iff, ?_, ?_⟩
  · rintro texts rest rfl
    rw [read, readLines_none]
    rfl
  · intro outcome houtcome
    obtain ⟨-, hpage, heven⟩ := even_of_read houtcome
    refine ⟨hpage, fun settings events => ?_⟩
    intro store
    have hrearranged : outcome.page.Rearranged store.page :=
      (Store.new outcome.page settings).run_rearranged events
    have hstill := hrearranged.unevenRow?_eq_none heven
    refine ⟨hstill, fun table htable clock column => ?_⟩
    exact Table.Even.all_text? (Page.unevenRow?_eq_none_iff.1 hstill table htable) _

/-- A row that is one cell short is refused, unless it comes again with both. -/
example :
    let lines := ["[\"page\",[\"\"]]",
      "[\"table\",[\"t\",null,[],[],[],[[\"a\",null,null,[\"\",\"\"]],[\"b\",null,null,[\"\"]]]]]"]
    let again := "[\"row\",\x7b\"table_id\":\"t\",\"id\":\"b\",\"cells\":[\"\",\"\"]\x7d]"
    (read 0 (lines.map some)).1 = .error (.uneven ⟨"t", "b", 1, 2⟩) ∧
      (read 0 ((lines ++ [again]).map some)).1.isOk = true := by
  decide +kernel

end Feed

end Scoreboard
