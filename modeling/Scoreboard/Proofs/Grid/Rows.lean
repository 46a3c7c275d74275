import Scoreboard.Proofs.Grid.Refusal

/-!
# Rows after a series of events

Events rearrange the rows of a page and do nothing else to it. A click on a header rearranges those
of one table, and tells of the same table what the drawings before and after the click show. All
other events leave the rows where they are.

## Main definitions

- `Page.ReordersFirst` — the first table of a name has its rows in another order
- `Event.sorted?` — the name of the table that an event sorts

## Main statements

- `Store.step_page` — just clicks on headers touch the rows and the indicators
- `Store.run_rowOrders` — the rows after any series of events
-/

namespace Scoreboard

/-- The name of the table that an event sorts, if it is a click on a header. -/
def Event.sorted? : Event → Option String
  | .headerClick tableId _ => some tableId
  | _ => none

/-- The first table of a name has its rows in another order, and nothing else is changed. -/
def Page.ReordersFirst (page : Page) (tableId : String) (page' : Page) : Prop :=
  ∃ front table rows back, page.tables = front ++ table :: back ∧ table.id = tableId ∧
    (∀ other ∈ front, other.id ≠ tableId) ∧ rows.Perm table.rows ∧
    page' = { page with tables := front ++ { table with rows } :: back }

theorem Page.reordersFirst_withRows {page : Page} {tableId : String} {table : Table}
    {rows : List Row} (htable : page.table? tableId = some table) (hperm : rows.Perm table.rows) :
    page.ReordersFirst tableId (page.withRows table rows) := by
  have hid := id_of_table? htable
  subst hid
  obtain ⟨front, back, htables, hfront, hreplace⟩ :=
    Store.replaceFirst_of_find? { table with rows } htable
  refine ⟨front, table, rows, back, htables, rfl, ?_, hperm, ?_⟩
  · intro other hother
    exact of_decide_eq_false (hfront other hother)
  · unfold withRows
    rw [hreplace]

namespace Store

variable {store store' : Store} {clock : Int} {event : Event} {render : Render}

/-- The rows that are drawn under a name are those of the first table of the name. -/
theorem rowOrder?_render (store : Store) (sort : Option SortReport) (tableId : String) :
    Render.rowOrder? { store.render with sort } tableId =
      (store.page.table? tableId).map Table.rowIds := by
  unfold Render.rowOrder? render Page.table?
  rw [List.find?_map, Option.map_map]
  rfl

/-- Just clicks on headers touch the rows and the indicators. -/
theorem step_page (hother : event.sorted? = none) :
    (store.step clock event).page = store.page ∧
      (store.step clock event).indicators = store.indicators := by
  refine step_invariant
    (fun store' => store'.page = store.page ∧ store'.indicators = store.indicators)
    (fun store' haccepts => ?_) ⟨rfl, rfl⟩
  cases haccepts with
  | headerClick table column htable hcolumn => cases hother
  | _ => exact ⟨rfl, rfl⟩

/-- A click rearranges the first table of the name, and reports the rows that are drawn before and
    after it. -/
theorem handle_headerClick {tableId : String} {column : UInt64}
    (h : store.handle clock (.headerClick tableId column) = .ok (store', render)) :
    store.page.ReordersFirst tableId store'.page ∧
      ∃ report, render.sort = some report ∧
        store.render.rowOrder? tableId = some report.before ∧
        render.rowOrder? tableId = some report.after := by
  obtain ⟨sort, happly, rfl⟩ := handle_eq_ok_iff.1 h
  have hbefore := store.rowOrder?_render none tableId
  rw [apply_headerClick] at happly
  cases htable : store.page.table? tableId with
  | none => rw [htable] at happly; cases happly
  | some table =>
    rw [htable] at happly hbefore
    dsimp only at happly
    split at happly
    · cases happly
      refine ⟨Page.reordersFirst_withRows htable (Comparison.sort_perm ..), _, rfl, hbefore, ?_⟩
      rw [rowOrder?_render]
      exact congrArg (Option.map Table.rowIds) (Page.table?_withRows htable _)
    · cases happly

/-- After any series of events a page is as it was, but for the order of the rows in each table.
    A click that is accepted rearranges the first table of the name and no other, and its report
    has the rows that are drawn under that name before and after it. Any other event leaves all rows
    and all indicators as they are, and so does a refused one, even where it is carried out in
    place. -/
theorem run_rowOrders (page : Page) (settings : Settings) (events : List (Int × Event)) :
    let store := (new page settings).run events
    page.Rearranged store.page ∧
      (∀ clock tableId column store' render,
        store.handle clock (.headerClick tableId column) = .ok (store', render) →
          store.page.ReordersFirst tableId store'.page ∧
            ∃ report, render.sort = some report ∧
              store.render.rowOrder? tableId = some report.before ∧
              render.rowOrder? tableId = some report.after) ∧
      (∀ clock event store' render, event.sorted? = none →
        store.handle clock event = .ok (store', render) →
          store'.page = store.page ∧ store'.indicators = store.indicators ∧
            render.rowOrders = store.render.rowOrders ∧
            render.indicators = store.render.indicators) ∧
      ∀ clock event error, store.handle clock event = .error error →
        ((handleInPlace clock event).outcome store).2 = store := by
  intro store
  refine ⟨(new page settings).run_rearranged events, ?_, ?_, ?_⟩
  · intro clock tableId column store' render h
    exact handle_headerClick h
  · intro clock event store' render hother h
    obtain ⟨rfl, sort, rfl⟩ := render_of_handle h
    have hkept : (store.step clock event).page = store.page ∧
        (store.step clock event).indicators = store.indicators := step_page hother
    obtain ⟨hpage, hindicators⟩ := hkept
    refine ⟨hpage, hindicators, ?_, ?_⟩
    · unfold Store.render
      rw [hpage]
    · unfold Store.render
      rw [hpage, hindicators]
  · intro clock event error herror
    have hplace := performs_handleInPlace store clock event
    unfold Edit.Performs at hplace
    rw [hplace, herror]

end Store

end Scoreboard
