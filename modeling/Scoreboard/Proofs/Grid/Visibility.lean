import Scoreboard.Proofs.Grid.Fold
import Scoreboard.Proofs.Page.WellFormed

/-!
# What is visible after a series of events

A page keeps its names whatever happens to it, and each thing on it is shown as its tags tell after
the last choices and toggles.

## Main definitions

- `Page.Holds` — a name on a page, and the tags that all must pass for it to be shown
- `Tags.shownAfter` — tags pass after a series of events

## Main statements

- `Page.mem_shown_iff` — what a page shows, name by name
- `Page.Holds.unique` — on a page of distinct names, a name tells its tags
- `Store.run_visibility` — what is visible after a series of events
-/

namespace Scoreboard

namespace ElementId

theorem eq_of_keyOrder {a b : ElementKey} (h : ElementKey.order a b = .eq) : a = b := by
  obtain ⟨kind, owner, row, number⟩ := a
  obtain ⟨kind', owner', row', number'⟩ := b
  simp only [ElementKey.order, compareLex_eq_eq, compareOn, Std.compare_eq_iff_eq] at h
  obtain ⟨rfl, rfl, rfl, rfl⟩ := h
  rfl

theorem sortKey_injective {a b : ElementId} (h : a.sortKey = b.sortKey) : a = b := by
  cases a <;> cases b <;> simp only [sortKey, ElementKey.mk.injEq] at h
  case row.row => rw [h.2.1, h.2.2.1]
  case cell.cell => rw [h.2.1, h.2.2.1, h.2.2.2]
  case header.header => rw [h.2.1, h.2.2.2]
  case group.group =>
    have hround := congrArg RoundId.mk (UInt32.toNat_inj.1 h.2.2.2)
    rw [h.2.1]
    exact congrArg _ hround
  case element.element => rw [h.2.1]
  all_goals exact absurd h.1 (by decide)

instance : Std.LawfulEqOrd ElementId where
  eq_of_compare h := sortKey_injective (eq_of_keyOrder h)

end ElementId

/-- A name on a page, and the tags that all must pass for the thing to be shown. -/
inductive Page.Holds (page : Page) : ElementId → List Tags → Prop where
  /-- The header of a round answers to that round. -/
  | group {table : Table} {header : GroupHeader} (htable : table ∈ page.tables)
      (hheader : header ∈ table.groups) :
      Holds page (.group table.id header.round) [{ round := some header.round }]
  /-- The header of a column belongs to no participant. -/
  | header {table : Table} {index : Nat} {column : Column} (htable : table ∈ page.tables)
      (hcolumn : table.columns[index]? = some column) :
      Holds page (.header table.id index)
        [{ round := column.round, hideable := column.hideable }]
  /-- A row is not hidden with a round. -/
  | row {table : Table} {row : Row} (htable : table ∈ page.tables) (hrow : row ∈ table.rows) :
      Holds page (.row table.id row.id) [{ player := row.player, round := row.round }]
  /-- A cell is shown only if its row is. -/
  | cell {table : Table} {row : Row} {index : Nat} {cell : Cell} (htable : table ∈ page.tables)
      (hrow : row ∈ table.rows) (hcell : row.cells[index]? = some cell) :
      Holds page (.cell table.id row.id index)
        [{ player := row.player, round := row.round },
          { player := cell.player, round := cell.round, hideable := cell.hideable }]
  /-- An element is not hidden with a round. -/
  | element {element : Element} (helement : element ∈ page.elements) :
      Holds page (.element element.id) [{ player := element.player, round := element.round }]

theorem Selection.passes_none {α : Type} [DecidableEq α] (chosen : Option α) :
    passes chosen none = true := by
  cases chosen <;> rfl

namespace Page

section

variable (selection : Selection) (collapse : Collapse)

/-- What a page shows, name by name. -/
theorem mem_shown_iff (page : Page) (id : ElementId) (shown : Bool) :
    (id, shown) ∈ page.shown selection collapse ↔
      ∃ tags, page.Holds id tags ∧
        shown = tags.all fun tags => tags.visible selection collapse := by
  constructor
  · -- The list is taken apart as it is put together.
    intro h
    rcases List.mem_append.1 h with htables | helements
    · obtain ⟨table, htable, hmem⟩ := List.mem_flatMap.1 htables
      rcases List.mem_append.1 hmem with hheaders | hrows
      · rcases List.mem_append.1 hheaders with hgroups | hcolumns
        · obtain ⟨header, hheader, heq⟩ := List.mem_map.1 hgroups
          cases heq
          exact ⟨_, .group htable hheader, by
            simp [Tags.visible, Selection.allowsPlayer, Selection.passes_none]⟩
        · obtain ⟨index, hindex, heq⟩ := List.mem_mapIdx.1 hcolumns
          cases heq
          exact ⟨_, .header htable (List.getElem?_eq_getElem hindex), by simp [Column.tags]⟩
      · obtain ⟨row, hrow, hmem⟩ := List.mem_flatMap.1 hrows
        rcases List.mem_cons.1 hmem with heq | hcells
        · cases heq
          exact ⟨_, .row htable hrow, by simp [Row.tags]⟩
        · obtain ⟨index, hindex, heq⟩ := List.mem_mapIdx.1 hcells
          cases heq
          exact ⟨_, .cell htable hrow (List.getElem?_eq_getElem hindex),
            by simp [Row.tags, Cell.tags]⟩
    · obtain ⟨element, helement, heq⟩ := List.mem_map.1 helements
      cases heq
      exact ⟨_, .element helement, by simp [Element.tags]⟩
  · rintro ⟨tags, hholds, rfl⟩
    cases hholds with
    | @group table header htable hheader =>
      refine List.mem_append_left _ (List.mem_flatMap.2 ⟨table, htable, ?_⟩)
      refine List.mem_append_left _ (List.mem_append_left _ (List.mem_map.2 ⟨header, hheader, ?_⟩))
      simp [Tags.visible, Selection.allowsPlayer, Selection.passes_none]
    | @header table index column htable hcolumn =>
      obtain ⟨hindex, rfl⟩ := List.getElem?_eq_some_iff.1 hcolumn
      refine List.mem_append_left _ (List.mem_flatMap.2 ⟨table, htable, ?_⟩)
      refine List.mem_append_left _ (List.mem_append_right _ ?_)
      refine List.mem_mapIdx.2 ⟨index, hindex, ?_⟩
      simp [Column.tags]
    | @row table row htable hrow =>
      refine List.mem_append_left _ (List.mem_flatMap.2 ⟨table, htable, ?_⟩)
      refine List.mem_append_right _ (List.mem_flatMap.2 ⟨row, hrow, ?_⟩)
      refine List.mem_cons.2 (.inl ?_)
      simp [Row.tags]
    | @cell table row index cell htable hrow hcell =>
      obtain ⟨hindex, rfl⟩ := List.getElem?_eq_some_iff.1 hcell
      refine List.mem_append_left _ (List.mem_flatMap.2 ⟨table, htable, ?_⟩)
      refine List.mem_append_right _ (List.mem_flatMap.2 ⟨row, hrow, ?_⟩)
      refine List.mem_cons.2 (.inr (List.mem_mapIdx.2 ⟨index, hindex, ?_⟩))
      simp [Row.tags, Cell.tags]
    | @element element helement =>
      refine List.mem_append_right _ (List.mem_map.2 ⟨element, helement, ?_⟩)
      simp [Element.tags]

end

variable {page page' : Page} {id : ElementId} {tags tags' : List Tags}

theorem DistinctIds.table_eq (h : page.DistinctIds) {table table' : Table}
    (htable : table ∈ page.tables) (htable' : table' ∈ page.tables) (hid : table.id = table'.id) :
    table = table' :=
  List.inj_on_of_nodup_map h.tables htable htable' hid

theorem DistinctIds.row_eq (h : page.DistinctIds) {table : Table} {row row' : Row}
    (htable : table ∈ page.tables) (hrow : row ∈ table.rows) (hrow' : row' ∈ table.rows)
    (hid : row.id = row'.id) : row = row' :=
  List.inj_on_of_nodup_map (h.rows table htable) hrow hrow' hid

/-- On a page of distinct names, a name tells its tags. -/
theorem Holds.unique (hdistinct : page.DistinctIds) (h : page.Holds id tags)
    (h' : page.Holds id tags') : tags = tags' := by
  -- Names of two kinds are never the same, so both stand for things of one kind.
  cases h with
  | @group table header htable hheader =>
    generalize hid : ElementId.group table.id header.round = id at h'
    cases h' with
    | group htable' hheader' => rw [(ElementId.group.inj hid).2]
    | _ => cases hid
  | @header table index column htable hcolumn =>
    generalize hid : ElementId.header table.id index = id at h'
    cases h' with
    | header htable' hcolumn' =>
      obtain ⟨htable_id, rfl⟩ := ElementId.header.inj hid
      obtain rfl := hdistinct.table_eq htable htable' htable_id
      rw [hcolumn, Option.some_inj] at hcolumn'
      rw [hcolumn']
    | _ => cases hid
  | @row table row htable hrow =>
    generalize hid : ElementId.row table.id row.id = id at h'
    cases h' with
    | row htable' hrow' =>
      obtain ⟨htable_id, hrow_id⟩ := ElementId.row.inj hid
      obtain rfl := hdistinct.table_eq htable htable' htable_id
      rw [hdistinct.row_eq htable hrow hrow' hrow_id]
    | _ => cases hid
  | @cell table row index cell htable hrow hcell =>
    generalize hid : ElementId.cell table.id row.id index = id at h'
    cases h' with
    | cell htable' hrow' hcell' =>
      obtain ⟨htable_id, hrow_id, rfl⟩ := ElementId.cell.inj hid
      obtain rfl := hdistinct.table_eq htable htable' htable_id
      obtain rfl := hdistinct.row_eq htable hrow hrow' hrow_id
      rw [hcell, Option.some_inj] at hcell'
      rw [hcell']
    | _ => cases hid
  | @element element helement =>
    generalize hid : ElementId.element element.id = id at h'
    cases h' with
    | element helement' =>
      have hsame := List.inj_on_of_nodup_map hdistinct.elements helement helement'
        (ElementId.element.inj hid)
      rw [hsame]
    | _ => cases hid

/-- The tables of a rearranged page are those of the page, with the same rows. -/
theorem Rearranged.exists_table (h : page.Rearranged page') {table' : Table}
    (htable' : table' ∈ page'.tables) : ∃ table ∈ page.tables, table.Rearranged table' := by
  have htables := h.tables
  revert htable'
  generalize page.tables = tables at htables ⊢
  generalize page'.tables = tables' at htables ⊢
  induction htables with
  | nil => intro hmem; cases hmem
  | @cons table₀ table₁ _ _ hhead _ ih =>
    intro hmem
    rcases List.mem_cons.1 hmem with rfl | hmem
    · exact ⟨table₀, List.mem_cons_self, hhead⟩
    · obtain ⟨table, htable, hrearranged⟩ := ih hmem
      exact ⟨table, .tail _ htable, hrearranged⟩

theorem Rearranged.holds (h : page.Rearranged page') (hholds : page'.Holds id tags) :
    page.Holds id tags := by
  have helements : page'.elements = page.elements := by rw [h.same]
  cases hholds with
  | group htable' hheader =>
    obtain ⟨table, htable, hsame⟩ := h.exists_table htable'
    rw [hsame.id_eq]
    rw [hsame.groups_eq] at hheader
    exact .group htable hheader
  | header htable' hcolumn =>
    obtain ⟨table, htable, hsame⟩ := h.exists_table htable'
    rw [hsame.id_eq]
    rw [hsame.columns_eq] at hcolumn
    exact .header htable hcolumn
  | row htable' hrow =>
    obtain ⟨table, htable, hsame⟩ := h.exists_table htable'
    rw [hsame.id_eq]
    exact .row htable (hsame.perm.mem_iff.1 hrow)
  | cell htable' hrow hcell =>
    obtain ⟨table, htable, hsame⟩ := h.exists_table htable'
    rw [hsame.id_eq]
    exact .cell htable (hsame.perm.mem_iff.1 hrow) hcell
  | element helement =>
    rw [helements] at helement
    exact .element helement

theorem Rearranged.holds_iff (h : page.Rearranged page') :
    page'.Holds id tags ↔ page.Holds id tags :=
  ⟨h.holds, h.symm.holds⟩

/-- On a page of distinct names, each thing is shown as its tags tell, wherever the rows stand. -/
theorem Rearranged.get?_visibility (h : page.Rearranged page') (hdistinct : page.DistinctIds)
    (selection : Selection) (collapse : Collapse) {shown : Bool} :
    (page'.visibility selection collapse).get? id = some shown ↔
      ∃ tags, page.Holds id tags ∧
        shown = tags.all fun tags => tags.visible selection collapse := by
  unfold visibility
  rw [SortedMap.get?_ofList_iff, mem_shown_iff]
  · simp only [h.holds_iff]
  · rintro ⟨id, shown⟩ hmem ⟨id', shown'⟩ hmem' rfl
    obtain ⟨tags, hholds, rfl⟩ := (mem_shown_iff ..).1 hmem
    obtain ⟨tags', hholds', rfl⟩ := (mem_shown_iff ..).1 hmem'
    rw [Holds.unique hdistinct (h.holds hholds) (h.holds hholds')]

theorem Rearranged.visibility_eq (h : page.Rearranged page') (hdistinct : page.DistinctIds)
    (selection : Selection) (collapse : Collapse) :
    page'.visibility selection collapse = page.visibility selection collapse := by
  apply SortedMap.eq_of_get?
  intro id
  apply Option.ext
  intro shown
  rw [h.get?_visibility hdistinct, (Rearranged.refl page).get?_visibility hdistinct]

end Page

/-- Tags pass after a series of events: the last choices of a participant and of a round leave them,
    and their round, if it hides them, was toggled an even number of times. -/
def Tags.shownAfter (store : Store) (events : List (Int × Event)) (tags : Tags) : Bool :=
  Selection.passes (Store.lastParticipant (events.map Prod.snd)) tags.player
    && Selection.passes (Store.lastRound (events.map Prod.snd)) tags.round
    && !(tags.hideable && tags.round.any fun round => store.toggles events round % 2 = 1)

namespace Store

variable (page : Page) (settings : Settings) (events : List (Int × Event))

/-- Tags pass after a series of events as they pass in the store that the events lead to. -/
theorem visible_run (tags : Tags) :
    tags.visible ((new page settings).run events).selection
        ((new page settings).run events).collapse =
      tags.shownAfter (new page settings) events := by
  have hcollapse : ((new page settings).run events).collapse.isCollapsed =
      fun round => decide ((new page settings).toggles events round % 2 = 1) := by
    funext round
    rw [run_isCollapsed]
    show ((Collapse.ofPage page settings.collapse).isCollapsed round ^^ _) = _
    rw [Collapse.isCollapsed_ofPage, Bool.false_xor]
  unfold Tags.visible Tags.shownAfter Selection.allowsPlayer Selection.allowsRound
  rw [run_selection, hcollapse]

theorem visibility_of_handle {store store' : Store} {clock : Int} {event : Event} {render : Render}
    (h : store.handle clock event = .ok (store', render)) :
    render.visibility = (store.step clock event).render.visibility := by
  obtain ⟨rfl, sort, rfl⟩ := render_of_handle h
  rfl

theorem step_headerClick (store : Store) (clock : Int) (tableId : String) (column : UInt64) :
    (store.step clock (.headerClick tableId column)).selection = store.selection ∧
      (store.step clock (.headerClick tableId column)).collapse = store.collapse := by
  refine step_invariant
    (fun store' => store'.selection = store.selection ∧ store'.collapse = store.collapse)
    (fun store' haccepts => ?_) ⟨rfl, rfl⟩
  cases haccepts
  exact ⟨rfl, rfl⟩

/-- On a page of distinct names, the names that are shown or hidden are those of the page as it was
    at first, whatever events come. Each thing is shown after a series of events as its tags tell
    after the last choices and an even or odd number of toggles, and so it is drawn. A click on a
    header never changes what is shown. -/
theorem run_visibility (hdistinct : page.DistinctIds) :
    let store := new page settings
    let visibility := (store.run events).render.visibility
    (∀ id, id ∈ visibility.keys ↔ ∃ tags, page.Holds id tags) ∧
      (∀ id tags, page.Holds id tags →
        visibility.get? id = some (tags.all (Tags.shownAfter store events))) ∧
      (∀ clock event store' render,
        (store.run events).handle clock event = .ok (store', render) →
          render.visibility = (store.run (events ++ [(clock, event)])).render.visibility) ∧
      ∀ clock tableId column store' render,
        (store.run events).handle clock (.headerClick tableId column) = .ok (store', render) →
          render.visibility = visibility := by
  intro store visibility
  have hget (events : List (Int × Event)) (id : ElementId) (shown : Bool) :
      (store.run events).render.visibility.get? id = some shown ↔
        ∃ tags, page.Holds id tags ∧ shown = tags.all (Tags.shownAfter store events) := by
    have hrearranged : page.Rearranged (store.run events).page := store.run_rearranged events
    show ((store.run events).page.visibility _ _).get? id = some shown ↔ _
    rw [hrearranged.get?_visibility hdistinct]
    simp only [visible_run, store]
  -- Which names there are and what each is shown as both follow from that.
  refine ⟨?_, ?_, ?_, ?_⟩
  · intro id
    rw [SortedMap.mem_keys_iff]
    constructor
    · rintro ⟨shown, hshown⟩
      obtain ⟨tags, hholds, -⟩ := (hget events id shown).1 hshown
      exact ⟨tags, hholds⟩
    · rintro ⟨tags, hholds⟩
      exact ⟨_, (hget events id _).2 ⟨tags, hholds, rfl⟩⟩
  · intro id tags hholds
    exact (hget events id _).2 ⟨tags, hholds, rfl⟩
  · intro clock event store' render h
    rw [run_append]
    exact visibility_of_handle h
  · intro clock tableId column store' render h
    rw [visibility_of_handle h]
    obtain ⟨hselection, hcollapse⟩ := step_headerClick (store.run events) clock tableId column
    have hrearranged := store.run_rearranged events
    have hclicked :
        store.page.Rearranged ((store.run events).step clock (.headerClick tableId column)).page :=
      hrearranged.trans ((store.run events).run_rearranged [(clock, .headerClick tableId column)])
    show ((store.run events).step clock (.headerClick tableId column)).page.visibility _ _ =
      (store.run events).page.visibility _ _
    rw [hselection, hcollapse, hclicked.visibility_eq hdistinct]
    exact (hrearranged.visibility_eq hdistinct _ _).symm

/-- A page of one table, with a row for each of two participants and a column that is hidden with
    its round. -/
def twoPlayers : Page where
  title := ""
  year := none
  tables := [{
    id := "scores"
    year := none
    leading := ["player"]
    columns := [⟨"score", some ⟨1⟩, true⟩]
    groups := [⟨⟨1⟩, "round one", none⟩]
    rows := [⟨"a", some ⟨"ann"⟩, none, [Cell.plain "Ann", ⟨"3", some ⟨1⟩, none, true⟩]⟩,
      ⟨"b", some ⟨"bob"⟩, none, [Cell.plain "Bob", ⟨"2", some ⟨1⟩, none, true⟩]⟩] }]
  elements := [⟨"chart", .chart, some ⟨"bob"⟩, none, ""⟩]

/-- Sorted, narrowed to one participant and with the round collapsed, the page shows that
    participant and hides the other one, the column and its cells. -/
theorem run_visibility_twoPlayers :
    let store := new twoPlayers {}
    let visibility := (store.run [(2025, .roundToggle ⟨1⟩), (2025, .headerClick "scores" 0),
      (2025, .roundToggle ⟨2⟩), (2026, .participantClick ⟨"ann"⟩)]).render.visibility
    twoPlayers.DistinctIds ∧ visibility.get? (.group "scores" ⟨1⟩) = some true ∧
      visibility.get? (.header "scores" 0) = some false ∧
      visibility.get? (.row "scores" "a") = some true ∧
      visibility.get? (.cell "scores" "a" 1) = some false ∧
      visibility.get? (.element "chart") = some false := by
  intro store visibility
  have hdistinct : twoPlayers.DistinctIds := ⟨by decide, by decide, by decide⟩
  obtain ⟨-, hget, -, -⟩ := run_visibility twoPlayers {}
    [(2025, .roundToggle ⟨1⟩), (2025, .headerClick "scores" 0), (2025, .roundToggle ⟨2⟩),
      (2026, .participantClick ⟨"ann"⟩)] hdistinct
  refine ⟨hdistinct, ?_, ?_, ?_, ?_, ?_⟩
  · rw [hget _ _ (.group List.mem_cons_self List.mem_cons_self)]
    decide +kernel
  · rw [hget _ _ (.header List.mem_cons_self rfl)]
    decide +kernel
  · rw [hget _ _ (.row List.mem_cons_self List.mem_cons_self)]
    decide +kernel
  · rw [hget _ _ (.cell List.mem_cons_self List.mem_cons_self rfl)]
    decide +kernel
  · rw [hget _ _ (.element List.mem_cons_self)]
    decide +kernel

end Store

end Scoreboard
