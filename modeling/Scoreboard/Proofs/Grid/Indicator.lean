import Mathlib.Data.List.DropRight
import Scoreboard.Proofs.Grid.Repeat
import Scoreboard.Proofs.Grid.Visibility

/-!
# Sorted columns after a series of events

A table shows a direction at the column that was clicked last, and at no other. Which direction that
is can be told from the clicks alone, whatever the sorts found the rows to be: it turns with every
click on the same column, and a click on another column starts over.

## Main definitions

- `Store.clicks` — the columns of a table that a series of events clicks
- `Indicator.press` — the indicator after one more click
- `Indicator.after` — the indicator that a series of clicks leaves

## Main statements

- `Indicator.foldl_press` — clicks one by one leave what the last run of clicks on one column tells
- `Store.run_indicators` — the indicator of a table after any series of events
-/

namespace Scoreboard

/-- The column that an event clicks, if it is a click on a header of the table. -/
def Event.clicked? (tableId : String) : Event → Option Nat
  | .headerClick clicked column => if clicked = tableId then some column.toNat else none
  | _ => none

/-- The direction that some clicks on one column in a row leave: the first one asks for the
    ascending order, and each later one for the other order than the one before. -/
def Direction.afterClicks (clicks : Nat) : Direction :=
  if clicks % 2 = 1 then .ascending else .descending

theorem Direction.next_afterClicks (clicks : Nat) :
    Direction.next (some (afterClicks clicks)) = afterClicks (clicks + 1) := by
  unfold afterClicks
  rcases Nat.mod_two_eq_zero_or_one clicks with heven | hodd
  · rw [if_neg (by omega), if_pos (by omega)]
    rfl
  · rw [if_pos hodd, if_neg (by omega)]
    rfl

namespace Indicator

/-- The direction shown at a column. -/
def directionAt (shown : Option Indicator) (column : Nat) : Option Direction :=
  match shown with
  | some indicator => if indicator.column = column then some indicator.direction else none
  | none => none

/-- The indicator after one more click. -/
def press (shown : Option Indicator) (column : Nat) : Option Indicator :=
  some ⟨column, Direction.next (directionAt shown column)⟩

/-- The indicator that a series of clicks leaves: the last column, with the direction that is told
    from the number of clicks on it since any other column was clicked. -/
def after (columns : List Nat) : Option Indicator :=
  columns.getLast?.map fun column =>
    ⟨column, .afterClicks (columns.rtakeWhile (· = column)).length⟩

theorem directionAt_after (columns : List Nat) (column : Nat) :
    directionAt (after columns) column =
      if columns.getLast? = some column then
        some (.afterClicks (columns.rtakeWhile (· = column)).length)
      else none := by
  unfold after directionAt
  cases columns.getLast? with
  | none => rfl
  | some last =>
    by_cases hlast : last = column
    · subst hlast
      simp
    · simp [hlast]

theorem after_concat (columns : List Nat) (column : Nat) :
    after (columns ++ [column]) = press (after columns) column := by
  have hrun : (columns ++ [column]).rtakeWhile (· = column) =
      columns.rtakeWhile (· = column) ++ [column] :=
    List.rtakeWhile_concat_pos _ _ _ (decide_eq_true rfl)
  have hdirection : Direction.next (directionAt (after columns) column) =
      .afterClicks ((columns.rtakeWhile (· = column)).length + 1) := by
    rw [directionAt_after]
    split
    · exact Direction.next_afterClicks _
    · next hlast =>
      -- The clicks before were on another column, or there were none.
      have hstart : columns.rtakeWhile (· = column) = [] := by
        rcases List.eq_nil_or_concat columns with rfl | ⟨front, last, rfl⟩
        · rfl
        · have hother : ¬ decide (last = column) = true := by simpa using hlast
          rw [List.concat_eq_append, List.rtakeWhile_concat, if_neg hother]
      rw [hstart]
      rfl
  unfold press
  rw [hdirection, after, List.getLast?_concat, Option.map_some, hrun, List.length_append]
  rfl

theorem foldl_press (columns : List Nat) : columns.foldl press none = after columns := by
  induction columns using List.reverseRecOn with
  | nil => rfl
  | append_singleton columns column ih =>
    rw [List.foldl_append, ih, after_concat]
    rfl

example : after [0, 1, 0, 0, 0] = some ⟨0, .ascending⟩ := by
  decide

end Indicator

namespace Store

variable {store store' : Store} {clock : Int} {event : Event}

/-- The columns of a table whose headers a series of events clicks, without the clicks that are
    refused. -/
def clicks (store : Store) (events : List (Int × Event)) (tableId : String) : List Nat :=
  (store.accepted events).filterMap (Event.clicked? tableId)

/-- An event presses the column that it clicks. -/
theorem Accepts.indicator (h : store.Accepts clock event store') (tableId : String) :
    store'.indicators.get? tableId =
      (event.clicked? tableId).elim (store.indicators.get? tableId)
        (Indicator.press (store.indicators.get? tableId)) := by
  cases h with
  | headerClick table column htable hcolumn =>
    show (store.indicators.insert table.id _).get? tableId = _
    rw [SortedMap.get?_insert]
    by_cases hid : table.id = tableId
    · subst hid
      simp only [Event.clicked?, if_true]
      rfl
    · simp only [Event.clicked?, hid, Ne.symm hid, if_false]
      rfl
  | _ => rfl

theorem clicks_cons (store : Store) (clock : Int) (event : Event) (events : List (Int × Event))
    (tableId : String) :
    store.clicks ((clock, event) :: events) tableId =
      if (store.apply clock event).isOk then
        (event.clicked? tableId).toList ++ (store.step clock event).clicks events tableId
      else (store.step clock event).clicks events tableId := by
  unfold clicks
  rw [accepted]
  split
  · rw [List.filterMap_cons]
    cases event.clicked? tableId <;> rfl
  · rfl

/-- A series of events presses the columns that it clicks, one after the other. -/
theorem run_indicator (store : Store) (events : List (Int × Event)) (tableId : String) :
    (store.run events).indicators.get? tableId =
      (store.clicks events tableId).foldl Indicator.press (store.indicators.get? tableId) := by
  induction events generalizing store with
  | nil => rfl
  | cons entry events ih =>
    obtain ⟨clock, event⟩ := entry
    show ((store.step clock event).run events).indicators.get? tableId = _
    rw [ih, clicks_cons]
    rcases step_cases store clock event with ⟨haccepts, hok⟩ | ⟨hsame, hrefused⟩
    · rw [if_pos hok, List.foldl_append, haccepts.indicator tableId]
      cases event.clicked? tableId <;> rfl
    · rw [hrefused, hsame]
      rfl

/-- Only tables on the page get an indicator. -/
theorem run_unlisted (page : Page) (settings : Settings) (events : List (Int × Event))
    {tableId : String} (hnone : ((new page settings).run events).page.table? tableId = none) :
    ((new page settings).run events).indicators.get? tableId = none := by
  refine run_invariant
    (fun store => store.page.table? tableId = none → store.indicators.get? tableId = none)
    (fun {store store' clock event} haccepts h hnone => ?_) (fun _ => rfl) events hnone
  cases haccepts with
  | headerClick table column htable hcolumn =>
    by_cases hid : table.id = tableId
    · subst hid
      have hsome := Page.table?_withRows htable (store.sorted clock table column.toNat).rows
      rw [clicked, hsome] at hnone
      cases hnone
    · rw [clicked, Page.table?_withRows_of_ne hid] at hnone
      show (store.indicators.insert table.id _).get? tableId = none
      rw [SortedMap.get?_insert, if_neg (Ne.symm hid)]
      exact h hnone
  | _ => exact h hnone

/-- The indicators of the tables on the page are drawn. -/
theorem get?_indicators_render (store : Store) (tableId : String) :
    store.render.indicators.get? tableId =
      (store.page.table? tableId).bind fun _ => store.indicators.get? tableId := by
  apply Option.ext
  intro indicator
  unfold render
  rw [SortedMap.get?_ofList_iff]
  · simp only [List.mem_filterMap, Option.map_eq_some_iff, Option.bind_eq_some_iff]
    constructor
    · rintro ⟨table, htable, other, hget, heq⟩
      cases heq
      -- The table may not be the first one of its name.
      have hsome : (store.page.table? table.id).isSome = true := by
        rw [Page.table?, List.find?_isSome]
        exact ⟨table, htable, decide_eq_true rfl⟩
      obtain ⟨first, hfirst⟩ := Option.isSome_iff_exists.1 hsome
      exact ⟨first, hfirst, hget⟩
    · rintro ⟨table, htable, hget⟩
      have hid := Page.id_of_table? htable
      subst hid
      exact ⟨table, List.mem_of_find?_eq_some htable, indicator, hget, rfl⟩
  · -- Tables of one name have one indicator.
    simp only [List.mem_filterMap, Option.map_eq_some_iff]
    rintro a ⟨table, -, indicator, hget, rfl⟩ b ⟨table', -, indicator', hget', rfl⟩ hid
    dsimp only at hid ⊢
    rw [hid, hget'] at hget
    exact (Option.some_inj.1 hget).symm

/-- After any series of events, the indicator of a table is the one that the clicks on its headers
    leave: none if there were none, or else that of the last column that was clicked. It is drawn if
    the table is on the page. No other column of the table shows a direction. -/
theorem run_indicators (page : Page) (settings : Settings) (events : List (Int × Event))
    (tableId : String) :
    let start := new page settings
    let store := start.run events
    let columns := start.clicks events tableId
    store.indicators.get? tableId = Indicator.after columns ∧
      store.render.indicators.get? tableId = Indicator.after columns ∧
      ∀ column, store.indicators.direction? tableId column =
        if columns.getLast? = some column then
          some (.afterClicks (columns.rtakeWhile (· = column)).length)
        else none := by
  intro start store columns
  have hget : store.indicators.get? tableId = Indicator.after columns :=
    (run_indicator start events tableId).trans (Indicator.foldl_press columns)
  refine ⟨hget, ?_, fun column => ?_⟩
  · rw [get?_indicators_render, ← hget]
    cases htable : store.page.table? tableId with
    | none => exact (run_unlisted page settings events htable).symm
    | some table => rfl
  · rw [← Indicator.directionAt_after, ← hget]
    rfl

end Store

end Scoreboard
