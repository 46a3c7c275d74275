import Scoreboard.Proofs.Feed.Entry
import Scoreboard.Proofs.Feed.Roster
import Scoreboard.Proofs.List
import Scoreboard.Grid.Store

/-!
# What a feed comes to

The page that a feed describes, told from its entries as a whole: which record of each name comes
last, and which rows come after it. A draft is the same page made entry by entry.

## Main definitions

- `Feed.tableNamed?`, `Feed.elementNamed?` — what entries come to under a name
- `Feed.pageOf?` — the page that entries come to
- `Feed.warning?`, `Feed.warningsAfter` — what is odd about an entry that comes after others
- `Feed.Accounts` — a draft is what entries come to

## Main statements

- `Feed.Accounts.add` — one more entry
- `Feed.readLines_describes` — the page and the warnings of a feed
-/

namespace Scoreboard

/-- The rows with one in the place of the first row of its name, or at the bottom. -/
def placeRow (rows : List Row) (row : Row) : List Row :=
  if rows.any fun other => other.id = row.id then
    Store.replaceFirst (fun other => other.id = row.id) row rows
  else
    rows ++ [row]

theorem replaceFirst_eq_set {α : Type} (test : α → Bool) (new : α) (xs : List α) :
    Store.replaceFirst test new xs =
      (xs.findIdx? test).elim xs fun place => xs.set place new := by
  induction xs with
  | nil => rfl
  | cons x rest ih =>
    rw [Store.replaceFirst, List.findIdx?_cons, ih]
    split
    · rfl
    · cases rest.findIdx? test <;> rfl

/-- A row goes where the search for its name leads, and the search tells whether it is new. -/
theorem Table.putRow_eq (table : Table) (row : Row) :
    table.putRow row = ({ table with rows := placeRow table.rows row },
      table.rows.any fun other => other.id = row.id) := by
  unfold Table.putRow placeRow
  rw [replaceFirst_eq_set, ← List.findIdx?_isSome]
  cases table.rows.findIdx? fun other => other.id = row.id <;> rfl

namespace Draft

variable (draft : Draft) (line : Nat)

theorem warnIf_eq (cause : Bool) (warning : Warning) :
    draft.warnIf cause warning =
      { draft with warnings := draft.warnings ++ if cause then [warning] else [] } := by
  unfold warnIf
  cases cause
  · simp
  · rfl

theorem putTable_eq (table : Table) :
    draft.putTable line table =
      { draft with
        tables := (draft.tables.put table.id table).1
        warnings := draft.warnings ++
          if (draft.tables.put table.id table).2 then [.tableAgain line table.id] else [] } :=
  warnIf_eq ..

theorem putElement_eq (element : Element) :
    draft.putElement line element =
      { draft with
        elements := (draft.elements.put element.id element).1
        warnings := draft.warnings ++
          if (draft.elements.put element.id element).2 then [.elementAgain line element.id]
          else [] } :=
  warnIf_eq ..

theorem putRow_of_none {record : RowRecord} (h : draft.tables.find? record.tableId = none) :
    draft.putRow line record =
      { draft with
        warnings := draft.warnings ++ [.rowDropped line record.row.id record.tableId] } := by
  unfold putRow
  rw [h]
  rfl

theorem putRow_of_some {record : RowRecord} {place : Nat}
    (h : draft.tables.find? record.tableId = some place) :
    draft.putRow line record =
      { draft with
        tables := draft.tables.modify place fun table =>
          { table with rows := placeRow table.rows record.row }
        warnings := draft.warnings ++
          if draft.tables.items[place]?.any fun table =>
              table.rows.any fun other => other.id = record.row.id then
            [.rowReplaced line record.row.id record.tableId]
          else [] } := by
  unfold putRow
  simp only [h, warnIf_eq, Table.putRow_eq]

end Draft

namespace Feed

/-- The last table of a name, and what comes after it. -/
def lastTable? (tableId : String) : List Entry → Option (Table × List Entry)
  | [] => none
  | entry :: rest =>
    (lastTable? tableId rest).or
      ((entry.table?.filter fun table => table.id = tableId).map fun table => (table, rest))

/-- The table that entries come to under a name: the last one, with the rows that come after it. -/
def tableNamed? (tableId : String) (entries : List Entry) : Option Table :=
  (lastTable? tableId entries).map fun (table, later) =>
    { table with rows := (later.filterMap (Entry.rowFor? tableId)).foldl placeRow table.rows }

/-- The element that entries come to under a name: the last one. -/
def elementNamed? (elementId : String) (entries : List Entry) : Option Element :=
  (entries.filterMap Entry.element?).reverse.find? fun element => element.id = elementId

/-- The names of tables as they come up. -/
def tableIds (entries : List Entry) : List String :=
  (entries.filterMap Entry.table?).map Table.id

/-- The names of elements as they come up. -/
def elementIds (entries : List Entry) : List String :=
  (entries.filterMap Entry.element?).map Element.id

/-- The page that entries come to, if one of them has page data: the last of these count, and tables
    and elements stand in the order in which their names first come up. -/
def pageOf? (entries : List Entry) : Option Page :=
  (entries.filterMap Entry.page?).getLast?.map fun info =>
    { title := info.title
      year := info.year
      tables := (tableIds entries).eraseDups.filterMap fun tableId => tableNamed? tableId entries
      elements := (elementIds entries).eraseDups.filterMap fun elementId =>
        elementNamed? elementId entries }

/-- What is odd about an entry, on some line, that comes after others. -/
def warning? (before : List Entry) (line : Nat) : Entry → Option Warning
  | .page _ => none
  | .table table =>
    if table.id ∈ tableIds before then some (.tableAgain line table.id) else none
  | .row record =>
    match tableNamed? record.tableId before with
    | none => some (.rowDropped line record.row.id record.tableId)
    | some table =>
      if table.rows.any fun other => other.id = record.row.id then
        some (.rowReplaced line record.row.id record.tableId)
      else
        none
  | .element element =>
    if element.id ∈ elementIds before then some (.elementAgain line element.id) else none

/-- What is odd about entries that come after others. -/
def warningsAfter (before : List Entry) : List (Nat × Entry) → List Warning
  | [] => []
  | (line, entry) :: rest =>
    (warning? before line entry).toList ++ warningsAfter (before ++ [entry]) rest

/-- A draft holds the page that entries come to. -/
structure Accounts (entries : List Entry) (draft : Draft) : Prop where
  info : draft.info = (entries.filterMap Entry.page?).getLast?
  tables : draft.tables.Lists Table.id (tableIds entries) fun tableId =>
    tableNamed? tableId entries
  elements : draft.elements.Lists Element.id (elementIds entries) fun elementId =>
    elementNamed? elementId entries

section

variable {tableId : String} {entry : Entry}

theorem lastTable?_concat (tableId : String) (entries : List Entry) (entry : Entry) :
    lastTable? tableId (entries ++ [entry]) =
      ((entry.table?.filter fun table => table.id = tableId).map fun table => (table, [])).or
        ((lastTable? tableId entries).map fun found => (found.1, found.2 ++ [entry])) := by
  induction entries with
  | nil => simp [lastTable?]
  | cons head rest ih =>
    rw [List.cons_append, lastTable?, lastTable?, ih]
    cases entry.table?.filter fun table => table.id = tableId with
    | some table => rfl
    | none =>
      cases lastTable? tableId rest with
      | some found => rfl
      | none => cases head.table?.filter fun table => table.id = tableId <;> rfl

/-- What is no table of the name adds at most a row. -/
theorem tableNamed?_concat (h : entry.table?.filter (fun table => table.id = tableId) = none)
    (entries : List Entry) :
    tableNamed? tableId (entries ++ [entry]) =
      (tableNamed? tableId entries).map fun table =>
        { table with rows := (entry.rowFor? tableId).elim table.rows (placeRow table.rows) } := by
  unfold tableNamed?
  rw [lastTable?_concat, h]
  cases lastTable? tableId entries with
  | none => rfl
  | some found =>
    dsimp only [Option.map_none, Option.none_or, Option.map_some]
    rw [List.filterMap_concat, List.foldl_append]
    cases entry.rowFor? tableId <;> rfl

theorem tableNamed?_concat_table (tableId : String) (entries : List Entry) (table : Table) :
    tableNamed? tableId (entries ++ [.table table]) =
      if tableId = table.id then some table else tableNamed? tableId entries := by
  split
  · next hid =>
    unfold tableNamed?
    rw [lastTable?_concat, hid]
    simp [Entry.table?]
  · next hid =>
    rw [tableNamed?_concat (by simp [Entry.table?, Ne.symm hid])]
    cases tableNamed? tableId entries <;> rfl

theorem tableNamed?_concat_row (tableId : String) (entries : List Entry) (record : RowRecord) :
    tableNamed? tableId (entries ++ [.row record]) =
      if tableId = record.tableId then
        (tableNamed? tableId entries).map fun table =>
          { table with rows := placeRow table.rows record.row }
      else
        tableNamed? tableId entries := by
  rw [tableNamed?_concat rfl]
  split
  · next hid => simp [Entry.rowFor?, hid]
  · next hid =>
    cases tableNamed? tableId entries with
    | none => rfl
    | some table => simp [Entry.rowFor?, Ne.symm hid]

theorem elementNamed?_concat_element (elementId : String) (entries : List Entry)
    (element : Element) :
    elementNamed? elementId (entries ++ [.element element]) =
      if elementId = element.id then some element else elementNamed? elementId entries := by
  unfold elementNamed?
  rw [List.filterMap_concat, List.reverse_append]
  show List.find? _ (element :: _) = _
  rw [List.find?_cons]
  split
  · next hid => rw [if_pos (of_decide_eq_true hid).symm]
  · next hid =>
    rw [if_neg (Ne.symm (of_decide_eq_false hid))]
    rfl

theorem tableIds_concat (entries : List Entry) (entry : Entry) :
    tableIds (entries ++ [entry]) = tableIds entries ++ (entry.table?.map Table.id).toList := by
  unfold tableIds
  rw [List.filterMap_concat, List.map_append]
  cases entry.table? <;> rfl

theorem elementIds_concat (entries : List Entry) (entry : Entry) :
    elementIds (entries ++ [entry]) =
      elementIds entries ++ (entry.element?.map Element.id).toList := by
  unfold elementIds
  rw [List.filterMap_concat, List.map_append]
  cases entry.element? <;> rfl

end

section

variable {entries : List Entry} {entry : Entry} {draft : Draft}

theorem Accounts.info_concat (h : Accounts entries draft) (hpage : entry.page? = none) :
    draft.info = ((entries ++ [entry]).filterMap Entry.page?).getLast? := by
  rw [List.filterMap_concat, hpage, Option.toList_none, List.append_nil]
  exact h.info

theorem Accounts.tables_concat (h : Accounts entries draft) (htable : entry.table? = none)
    (hrow : ∀ tableId, entry.rowFor? tableId = none) :
    draft.tables.Lists Table.id (tableIds (entries ++ [entry])) fun tableId =>
      tableNamed? tableId (entries ++ [entry]) := by
  have hsame (tableId : String) :
      tableNamed? tableId (entries ++ [entry]) = tableNamed? tableId entries := by
    rw [tableNamed?_concat (by rw [htable]; rfl), hrow]
    cases tableNamed? tableId entries <;> rfl
  rw [tableIds_concat, htable, Option.map_none, Option.toList_none, List.append_nil, funext hsame]
  exact h.tables

theorem Accounts.elements_concat (h : Accounts entries draft) (helement : entry.element? = none) :
    draft.elements.Lists Element.id (elementIds (entries ++ [entry])) fun elementId =>
      elementNamed? elementId (entries ++ [entry]) := by
  have hsame (elementId : String) :
      elementNamed? elementId (entries ++ [entry]) = elementNamed? elementId entries := by
    unfold elementNamed?
    rw [List.filterMap_concat, helement, Option.toList_none, List.append_nil]
  rw [elementIds_concat, helement, Option.map_none, Option.toList_none, List.append_nil,
    funext hsame]
  exact h.elements

theorem Accounts.addTable (h : Accounts entries draft) (line : Nat) (table : Table) :
    Accounts (entries ++ [.table table]) (draft.putTable line table) ∧
      (draft.putTable line table).warnings =
        draft.warnings ++ (warning? entries line (.table table)).toList := by
  obtain ⟨htables, hagain⟩ :=
    h.tables.put table fun tableId => tableNamed?_concat_table tableId entries table
  rw [Draft.putTable_eq]
  refine ⟨⟨h.info_concat rfl, ?_, h.elements_concat rfl⟩, ?_⟩
  · rw [tableIds_concat]
    exact htables
  · have hknown := h.tables.isSome_iff table.id
    rw [← hagain] at hknown
    simp only [warning?, ← hknown]
    split <;> rfl

theorem Accounts.addElement (h : Accounts entries draft) (line : Nat) (element : Element) :
    Accounts (entries ++ [.element element]) (draft.putElement line element) ∧
      (draft.putElement line element).warnings =
        draft.warnings ++ (warning? entries line (.element element)).toList := by
  obtain ⟨helements, hagain⟩ :=
    h.elements.put element fun elementId => elementNamed?_concat_element elementId entries element
  rw [Draft.putElement_eq]
  refine ⟨⟨h.info_concat rfl, h.tables_concat rfl fun _ => rfl, ?_⟩, ?_⟩
  · rw [elementIds_concat]
    exact helements
  · have hknown := h.elements.isSome_iff element.id
    rw [← hagain] at hknown
    simp only [warning?, ← hknown]
    split <;> rfl

theorem Accounts.addRow (h : Accounts entries draft) (line : Nat) (record : RowRecord) :
    Accounts (entries ++ [.row record]) (draft.putRow line record) ∧
      (draft.putRow line record).warnings =
        draft.warnings ++ (warning? entries line (.row record)).toList := by
  have hids : tableIds (entries ++ [.row record]) = tableIds entries := by
    rw [tableIds_concat]
    exact List.append_nil _
  cases hplace : draft.tables.find? record.tableId with
  | none =>
    have hnone := h.tables.find?_eq_none_iff.1 hplace
    have hsame (tableId : String) :
        tableNamed? tableId (entries ++ [.row record]) = tableNamed? tableId entries := by
      rw [tableNamed?_concat_row]
      split
      · next hid => rw [hid, hnone]; rfl
      · rfl
    rw [draft.putRow_of_none line hplace]
    refine ⟨⟨h.info_concat rfl, ?_, h.elements_concat rfl⟩, ?_⟩
    · rw [hids, funext hsame]
      exact h.tables
    · simp only [warning?, hnone]
      rfl
  | some place =>
    have htables := h.tables.modify hplace
      (fun tableId => tableNamed?_concat_row tableId entries record) fun _ hid => hid
    have hfound := h.tables.getElem?_of_find? hplace
    obtain ⟨table, htable⟩ := Option.ne_none_iff_exists'.1
      (mt h.tables.find?_eq_none_iff.2 (by rw [hplace]; exact Option.some_ne_none place))
    rw [draft.putRow_of_some line hplace, hfound, htable]
    refine ⟨⟨h.info_concat rfl, ?_, h.elements_concat rfl⟩, ?_⟩
    · rw [hids]
      exact htables
    · simp only [warning?, htable, Option.any_some]
      split <;> rfl

/-- One more entry is taken into the page, and warned of if it is odd. -/
theorem Accounts.add (h : Accounts entries draft) (line : Nat) (entry : Entry) :
    Accounts (entries ++ [entry]) (draft.add line entry) ∧
      (draft.add line entry).warnings =
        draft.warnings ++ (warning? entries line entry).toList := by
  cases entry with
  | page info =>
    refine ⟨⟨?_, h.tables_concat rfl fun _ => rfl, h.elements_concat rfl⟩, ?_⟩
    · rw [List.filterMap_concat]
      exact List.getLast?_concat.symm
    · exact (List.append_nil _).symm
  | table table => exact h.addTable line table
  | row record => exact h.addRow line record
  | element element => exact h.addElement line element

/-- Entries that come after others are taken into the page one by one. -/
theorem Accounts.foldl (h : Accounts entries draft) (later : List (Nat × Entry)) :
    let draft' := later.foldl (fun draft entry => draft.add entry.1 entry.2) draft
    Accounts (entries ++ later.map Prod.snd) draft' ∧
      draft'.warnings = draft.warnings ++ warningsAfter entries later := by
  induction later generalizing entries draft with
  | nil => simpa [warningsAfter] using h
  | cons entry rest ih =>
    obtain ⟨hadd, hwarn⟩ := h.add entry.1 entry.2
    obtain ⟨hrest, hwarnings⟩ := ih hadd
    rw [List.append_assoc] at hrest
    refine ⟨hrest, ?_⟩
    rw [List.foldl_cons, hwarnings, hwarn, List.append_assoc]
    rfl

theorem Accounts.page?_eq (h : Accounts entries draft) : draft.page? = pageOf? entries := by
  unfold Draft.page? pageOf?
  rw [h.info, h.tables.items_eq, h.elements.items_eq]

theorem accounts_nil : Accounts [] {} where
  info := rfl
  tables := Roster.Lists.empty
  elements := Roster.Lists.empty

end

/-- A feed whose lines are text is read to its end. The page that it describes, if any, and the
    warnings are those that its entries come to as a whole. -/
theorem readLines_describes (every : Nat) (lines : List String) :
    ∃ reading, (readLines every {} (lines.map some)).1 = .ok reading ∧
      reading.draft.page? = pageOf? ((entries lines).map Prod.snd) ∧
      reading.draft.warnings = warningsAfter [] (entries lines) := by
  obtain ⟨reading, hread, hdraft⟩ := readLines_eq_foldl every lines
  obtain ⟨haccounts, hwarnings⟩ := accounts_nil.foldl (entries lines)
  rw [← hdraft] at haccounts hwarnings
  exact ⟨reading, hread, haccounts.page?_eq, hwarnings⟩

-- A row ahead of its table is dropped, and the last of two rows of one name stays.
example :
    let table : Table := ⟨"scores", none, [], [], [], []⟩
    let row (text : String) : Row := ⟨"first", none, none, [Cell.plain text]⟩
    let entries : List (Nat × Entry) :=
      [(1, .page ⟨"", none⟩), (2, .row ⟨"scores", row "70"⟩), (4, .table table),
        (5, .row ⟨"scores", row "71"⟩), (6, .row ⟨"scores", row "72"⟩)]
    pageOf? (entries.map Prod.snd) = some ⟨"", none, [{ table with rows := [row "72"] }], []⟩ ∧
      warningsAfter [] entries =
        [.rowDropped 2 "first" "scores", .rowReplaced 6 "first" "scores"] := by
  decide

end Feed

end Scoreboard
