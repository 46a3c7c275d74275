import Mathlib.Data.List.Nodup
import Scoreboard.Proofs.Feed.Account
import Scoreboard.Proofs.Page.WellFormed

/-!
# Distinct names

Whatever a feed says, no two tables and no two elements of its page have one name. A row record
never makes two rows of one name either. But the rows that a table record brings along are taken as
they are, so a table has two rows of one name just if its last record has.

## Main statements

- `Feed.read_accounts` — a feed that makes a page was read to its end, and the page is accounted for
- `Feed.tables_of_read` — the tables of such a page have distinct names and even rows
- `Feed.read_names_nodup` — which names on the page of a feed are distinct
-/

namespace Scoreboard

/-- No two things in a roster have one name, since a name has but one place. -/
theorem Roster.Indexed.nodup {α : Type} {roster : Roster α} {nameOf : α → String}
    (h : roster.Indexed nameOf) : (roster.items.map nameOf).Nodup := by
  rw [List.nodup_iff_getElem?_ne_getElem?]
  intro place other hlt hother heq
  have hname := List.getElem?_eq_getElem hother
  have hfind := (h _ other).2 hname
  have hfind' := (h _ place).2 (heq.trans hname)
  rw [hfind, Option.some_inj] at hfind'
  omega

theorem map_replaceFirst {α β : Type} {f : α → β} {test : α → Bool} {new : α}
    (hsame : ∀ a, test a = true → f new = f a) (xs : List α) :
    (Store.replaceFirst test new xs).map f = xs.map f := by
  induction xs with
  | nil => rfl
  | cons x rest ih =>
    rw [Store.replaceFirst]
    split
    · next hx => rw [List.map_cons, List.map_cons, hsame x hx]
    · rw [List.map_cons, List.map_cons, ih]

/-- A row that is placed adds its name to those of the rows, unless it is there. -/
theorem map_id_placeRow (rows : List Row) (row : Row) :
    (placeRow rows row).map Row.id =
      if row.id ∈ rows.map Row.id then rows.map Row.id else rows.map Row.id ++ [row.id] := by
  have hany : (rows.any fun other => other.id = row.id) = true ↔ row.id ∈ rows.map Row.id := by
    simp
  unfold placeRow
  by_cases hmem : row.id ∈ rows.map Row.id
  · rw [if_pos (hany.2 hmem), if_pos hmem]
    exact map_replaceFirst (fun other hother => (of_decide_eq_true hother).symm) rows
  · rw [if_neg (mt hany.1 hmem), if_neg hmem, List.map_append]
    rfl

/-- Rows that are placed one by one neither bring nor mend two rows of one name. -/
theorem nodup_foldl_placeRow (rows later : List Row) :
    ((later.foldl placeRow rows).map Row.id).Nodup ↔ (rows.map Row.id).Nodup := by
  induction later generalizing rows with
  | nil => rfl
  | cons row rest ih =>
    rw [List.foldl_cons, ih, map_id_placeRow]
    split
    · rfl
    · next hnew =>
      rw [List.nodup_append]
      constructor
      · exact And.left
      · intro hrows
        refine ⟨hrows, List.nodup_singleton _, fun name hname other hother => ?_⟩
        rw [List.mem_singleton.1 hother]
        exact ne_of_mem_of_not_mem hname hnew

namespace Feed

/-- What is read to its end is text. -/
theorem eq_map_some_of_readLines {every : Nat} {reading reading' : Reading}
    {lines : List (Option String)} (h : (readLines every reading lines).1 = .ok reading') :
    lines = (lines.filterMap id).map some := by
  induction lines generalizing reading with
  | nil => rfl
  | cons line rest ih =>
    cases line with
    | none => cases h
    | some line =>
      exact congrArg (some line :: ·) (ih h)

/-- What the lines that are text describe, from the first page record on. -/
def entriesOf (lines : List (Option String)) : List Entry :=
  (entries (lines.filterMap id)).map Prod.snd

/-- A feed that makes a page was read to its end. The page is what its entries come to, and its
    tables are even. -/
theorem read_accounts {every : Nat} {lines : List (Option String)} {outcome : FeedOutcome}
    (h : (read every lines).1 = .ok outcome) :
    ∃ draft, Accounts (entriesOf lines) draft ∧ draft.page? = some outcome.page ∧
      outcome.page.unevenRow? = none := by
  change (readLines every {} lines).1.bind finish = .ok outcome at h
  cases hread : (readLines every {} lines).1 with
  | error failure =>
    rw [hread] at h
    cases h
  | ok reading =>
    rw [hread] at h
    obtain ⟨reading', hread', hdraft⟩ := readLines_eq_foldl every (lines.filterMap id)
    rw [← eq_map_some_of_readLines hread, hread] at hread'
    cases hread'
    obtain ⟨haccounts, -⟩ := accounts_nil.foldl (entries (lines.filterMap id))
    rw [← hdraft] at haccounts
    refine ⟨reading.draft, haccounts, ?_⟩
    change finish reading = .ok outcome at h
    unfold finish at h
    split at h
    · cases h
    · next page hpage =>
      split at h
      · cases h
      · next heven =>
        cases h
        exact ⟨hpage, heven⟩

/-- The tables on the page of a feed have distinct names and no uneven rows. -/
theorem tables_of_read {every : Nat} {lines : List (Option String)} {outcome : FeedOutcome}
    (h : (read every lines).1 = .ok outcome) :
    (outcome.page.tables.map Table.id).Nodup ∧ outcome.page.unevenRow? = none := by
  obtain ⟨draft, haccounts, hpage, heven⟩ := read_accounts h
  refine ⟨?_, heven⟩
  obtain ⟨info, -, hinfo⟩ := Option.map_eq_some_iff.1 hpage
  rw [← hinfo]
  exact haccounts.tables.indexed.nodup

theorem distinctIds_of_read {every : Nat} {lines : List (Option String)} {outcome : FeedOutcome}
    (h : (read every lines).1 = .ok outcome)
    (hrows : ∀ table ∈ outcome.page.tables, table.rowIds.Nodup) : outcome.page.DistinctIds where
  tables := (tables_of_read h).1
  rows := hrows
  elements := by
    obtain ⟨draft, haccounts, hpage, -⟩ := read_accounts h
    obtain ⟨info, -, hinfo⟩ := Option.map_eq_some_iff.1 hpage
    rw [← hinfo]
    exact haccounts.elements.indexed.nodup

/-- On the page of a feed no two tables have one name, and no two elements. A table has two rows of
    one name just if the last record that describes it brings two such rows along. -/
theorem read_names_nodup {every : Nat} {lines : List (Option String)} {outcome : FeedOutcome}
    (h : (read every lines).1 = .ok outcome) :
    (outcome.page.tables.map Table.id).Nodup ∧ (outcome.page.elements.map Element.id).Nodup ∧
      ∀ table ∈ outcome.page.tables, ∃ described later,
        lastTable? table.id (entriesOf lines) = some (described, later) ∧
          (table.rowIds.Nodup ↔ described.rowIds.Nodup) := by
  obtain ⟨draft, haccounts, hpage, -⟩ := read_accounts h
  obtain ⟨info, -, hinfo⟩ := Option.map_eq_some_iff.1 hpage
  rw [← hinfo]
  refine ⟨haccounts.tables.indexed.nodup, haccounts.elements.indexed.nodup, ?_⟩
  intro table htable
  have hnamed : tableNamed? table.id (entriesOf lines) = some table :=
    haccounts.tables.mem_items_iff.1 htable
  obtain ⟨⟨described, later⟩, hlast, hrows⟩ := Option.map_eq_some_iff.1 hnamed
  refine ⟨described, later, hlast, ?_⟩
  -- The rows that came after the last record have added no name twice.
  rw [← hrows]
  exact nodup_foldl_placeRow described.rows _

/-- A table that brings two rows of one name along, and comes again with one of them. Another row of
    that name and a new one follow, and an element that comes twice. -/
def redefined : List String :=
  ["[\"page\",[\"Open\"]]",
    "[\"table\",[\"t\",null,[],[],[],[[\"a\",null,null,[\"1\"]],[\"a\",null,null,[\"2\"]]]]]",
    "[\"table\",[\"t\",null,[],[],[],[[\"a\",null,null,[\"3\"]]]]]",
    "[\"row\",\x7b\"table_id\":\"t\",\"id\":\"a\",\"cells\":[\"4\"]\x7d]",
    "[\"row\",\x7b\"table_id\":\"t\",\"id\":\"b\",\"cells\":[\"5\"]\x7d]",
    "[\"element\",[\"e\"]]",
    "[\"element\",[\"e\"]]"]

/-- All names are distinct if the last record of the table has distinct rows. -/
theorem read_names_nodup_redefined :
    let row (id text : String) : Row := ⟨id, none, none, [Cell.plain text]⟩
    let table : Table := ⟨"t", none, [], [], [], [row "a" "4", row "b" "5"]⟩
    let element : Element := ⟨"e", .other, none, none, ""⟩
    (∃ warnings, (read 0 (redefined.map some)).1 =
        .ok ⟨7, 0, ⟨"Open", none, [table], [element]⟩, warnings⟩) ∧
      ([table].map Table.id).Nodup ∧ ([element].map Element.id).Nodup ∧ table.rowIds.Nodup := by
  intro row table element
  have hread : (read 0 (redefined.map some)).1 = .ok ⟨7, 0, ⟨"Open", none, [table], [element]⟩,
      [.tableAgain 3 "t", .rowReplaced 4 "a" "t", .elementAgain 7 "e"]⟩ := by
    decide +kernel
  obtain ⟨htables, helements, hrows⟩ := read_names_nodup hread
  obtain ⟨described, later, hlast, hiff⟩ := hrows table List.mem_cons_self
  have hlast' : (lastTable? "t" (entriesOf (redefined.map some))).map (fun found => found.1) =
      some ⟨"t", none, [], [], [], [row "a" "3"]⟩ := by
    decide +kernel
  have hlast : lastTable? "t" (entriesOf (redefined.map some)) = some (described, later) := hlast
  rw [hlast, Option.map_some, Option.some_inj] at hlast'
  have hdescribed : described.rowIds.Nodup := by
    rw [show described = _ from hlast']
    decide
  exact ⟨⟨_, hread⟩, htables, helements, hiff.2 hdescribed⟩

/-- A table that brings two rows of one name along. -/
def twinRows : List String :=
  ["[\"page\",[\"Open\"]]",
    "[\"table\",[\"t\",null,[],[],[],[[\"a\",null,null,[\"1\"]],[\"a\",null,null,[\"2\"]]]]]"]

/-- The rows of a table record are not looked at for names that come twice. -/
theorem read_keeps_twinRows :
    ∃ outcome, (read 0 (twinRows.map some)).1 = .ok outcome ∧ outcome.warnings = [] ∧
      ∃ table ∈ outcome.page.tables, table.rowIds = ["a", "a"] ∧ ¬table.rowIds.Nodup := by
  let row (text : String) : Row := ⟨"a", none, none, [Cell.plain text]⟩
  let table : Table := ⟨"t", none, [], [], [], [row "1", row "2"]⟩
  have hread : (read 0 (twinRows.map some)).1 = .ok ⟨2, 0, ⟨"Open", none, [table], []⟩, []⟩ := by
    decide +kernel
  exact ⟨_, hread, rfl, table, List.mem_cons_self, rfl, by decide⟩

end Feed

end Scoreboard
