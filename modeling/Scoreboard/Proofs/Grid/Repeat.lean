import Mathlib.Logic.Function.Iterate
import Scoreboard.Proofs.Grid.Run
import Scoreboard.Proofs.Sort.Stable

/-!
# Repeated clicks

Clicks on the header of one column, one after the other, turn its rows over and over. A click may
find the rows in the order that it asks for, and put them in the other one. That makes a difference
after the first click only: later on, rows that stand in both orders tie, and stay where they are.

## Main definitions

- `Standing` — the direction shown at a column, and the rows
- `Comparison.click` — what one click does to them
- `Comparison.resting` — the direction of the rows after a number of clicks
- `Store.Shows` — a store shows a table with a column in some standing

## Main statements

- `Comparison.stable_click_iterate` — clicks on a column of one kind leave its rows stably sorted
- `Store.Shows.run` — a series of events does to a column what its clicks do, one after the other
- `Store.run_headerClicks` — the rows after any series of events that clicks one column of a table
-/

namespace Scoreboard

/-- The direction shown at a column, if any, and the rows of the table. -/
structure Standing where
  shown : Option Direction
  rows : List Row

namespace Comparison

variable {comparison : Comparison} {kind : CellValue.Kind} {rows : List Row}

/-- The standing of a column after one more click. -/
def click (comparison : Comparison) (standing : Standing) : Standing where
  shown := some (Direction.next standing.shown)
  rows := (comparison.sort (Direction.next standing.shown) standing.rows).rows

/-- The direction in which the rows of a column stand after one click or more: descending after an
    even number of clicks, and after a single one if they were in ascending order; else
    ascending. -/
def resting (comparison : Comparison) (rows : List Row) (clicks : Nat) : Direction :=
  if clicks % 2 = 0 ∨ clicks = 1 ∧
      rows.Pairwise (fun upper lower => comparison.inOrder .ascending upper lower) then
    .descending
  else
    .ascending

theorem resting_of_even {clicks : Nat} (h : clicks % 2 = 0) :
    comparison.resting rows clicks = .descending :=
  if_pos (.inl h)

theorem resting_of_odd {clicks : Nat} (h : clicks % 2 = 1) (hmore : clicks ≠ 1) :
    comparison.resting rows clicks = .ascending := by
  refine if_neg ?_
  rintro (heven | ⟨hone, -⟩)
  · omega
  · exact hmore hone

section

variable (h : ∀ row ∈ rows, comparison.kind? row = some kind)

include h

/-- Whatever click comes second or later leaves the rows in the direction that it asks for. -/
theorem sort_stable_again {direction : Direction} {rows' : List Row}
    (hstable : StableSort (comparison.inOrder direction) rows rows') {requested : Direction}
    (hturned : requested = .ascending → direction = .descending) :
    StableSort (comparison.inOrder requested) rows (comparison.sort requested rows').rows := by
  have hkind : ∀ row ∈ rows', comparison.kind? row = some kind :=
    fun row hrow => h row (hstable.perm.mem_iff.1 hrow)
  have hsort := sort_stable hkind requested
  by_cases hflip : requested = .ascending ∧
      rows'.Pairwise fun upper lower => comparison.inOrder .ascending upper lower
  · obtain ⟨rfl, hpair⟩ := hflip
    obtain rfl := hturned rfl
    -- The rows stand in both orders, so the click that turns them round leaves them as they are.
    rw [applied_of_pairwise hkind hpair] at hsort
    have hsame := eq_of_stable (comparison.inOrder_total .descending) hsort.perm hsort.sorted
      hstable.sorted hsort.stable
    rw [hsame]
    refine ⟨hstable.perm, hpair, fun row => ?_⟩
    have hties := funext (comparison.ties_inOrder .ascending .descending row)
    rw [hties, hstable.stable row]
  · rw [applied_of_not_pairwise hkind (not_and.1 hflip)] at hsort
    exact hstable.trans hsort (comparison.ties_inOrder direction requested)

/-- Clicks on a column of one kind leave the rows stably sorted. -/
theorem stable_click_iterate {clicks : Nat} (hclicks : 0 < clicks) :
    (comparison.click^[clicks] ⟨none, rows⟩).shown =
        some (if clicks % 2 = 0 then .descending else .ascending) ∧
      StableSort (comparison.inOrder (comparison.resting rows clicks)) rows
        (comparison.click^[clicks] ⟨none, rows⟩).rows := by
  induction clicks with
  | zero => exact absurd hclicks (Nat.lt_irrefl 0)
  | succ clicks ih =>
    rw [Function.iterate_succ_apply']
    rcases Nat.eq_zero_or_pos clicks with rfl | hpos
    · refine ⟨rfl, ?_⟩
      have hsort := sort_stable h .ascending
      by_cases hpair : rows.Pairwise fun upper lower => comparison.inOrder .ascending upper lower
      · rw [applied_of_pairwise h hpair] at hsort
        have hresting : comparison.resting rows (0 + 1) = .descending :=
          if_pos (.inr ⟨rfl, hpair⟩)
        rwa [hresting]
      · rw [applied_of_not_pairwise h fun _ => hpair] at hsort
        have hresting : comparison.resting rows (0 + 1) = .ascending :=
          if_neg (by simp [hpair])
        rwa [hresting]
    · obtain ⟨hshown, hstable⟩ := ih hpos
      generalize comparison.click^[clicks] ⟨none, rows⟩ = standing at hshown hstable
      rcases Nat.mod_two_eq_zero_or_one clicks with heven | hodd
      · have hnext : (clicks + 1) % 2 = 1 := by omega
        have hbefore : comparison.resting rows clicks = .descending := resting_of_even heven
        rw [if_pos heven] at hshown
        rw [resting_of_odd hnext (by omega), if_neg (by omega), click, hshown]
        exact ⟨rfl, sort_stable_again h hstable fun _ => hbefore⟩
      · have hnext : (clicks + 1) % 2 = 0 := by omega
        rw [if_neg (by omega)] at hshown
        rw [resting_of_even hnext, if_pos hnext, click, hshown]
        exact ⟨rfl, sort_stable_again h hstable nofun⟩

end

end Comparison

section

variable {α : Type} {test other : α → Bool} {new : α}

theorem Store.find?_replaceFirst_of_disjoint (hdisjoint : ∀ a, test a = true → other a = false)
    (hnew : test new = true) (xs : List α) :
    (replaceFirst test new xs).find? other = xs.find? other := by
  induction xs with
  | nil => rfl
  | cons a rest ih =>
    unfold replaceFirst
    split
    · next ha =>
      have hskip {b : α} (hb : test b = true) : ¬ other b = true := by
        rw [hdisjoint b hb]
        exact Bool.false_ne_true
      rw [List.find?_cons_of_neg (hskip hnew), List.find?_cons_of_neg (hskip ha)]
    · rw [List.find?_cons, List.find?_cons, ih]

end

theorem Page.table?_withRows_of_ne {page : Page} {table : Table} {tableId : String}
    (h : table.id ≠ tableId) (rows : List Row) :
    (page.withRows table rows).table? tableId = page.table? tableId := by
  refine Store.find?_replaceFirst_of_disjoint (fun other hother => ?_) (by simp) page.tables
  rw [of_decide_eq_true hother]
  exact decide_eq_false h

namespace Indicators

variable {indicators : Indicators} {tableId : String}

theorem direction?_insert_self (indicator : Indicator) :
    Indicators.direction? (indicators.insert tableId indicator) tableId indicator.column =
      some indicator.direction := by
  unfold direction?
  rw [SortedMap.get?_insert, if_pos rfl]
  exact if_pos rfl

theorem direction?_insert_of_ne {other : String} (h : tableId ≠ other) (indicator : Indicator)
    (column : Nat) : Indicators.direction? (indicators.insert other indicator) tableId column =
      indicators.direction? tableId column := by
  unfold direction?
  rw [SortedMap.get?_insert, if_neg h]

end Indicators

namespace Store

/-- A store shows a table with one of its columns in some standing. -/
structure Shows (store : Store) (table : Table) (column : Nat) (standing : Standing) : Prop where
  table?_eq : store.page.table? table.id = some { table with rows := standing.rows }
  direction?_eq : store.indicators.direction? table.id column = standing.shown

namespace Shows

variable {store : Store} {clock : Int} {table : Table} {column : UInt64} {standing : Standing}
  {comparison : Comparison}

theorem headerClick (h : store.Shows table column.toNat standing)
    (hbound : column.toNat < table.columns.length)
    (hcomparison : store.comparison clock table column.toNat = comparison) :
    (store.step clock (.headerClick table.id column)).Shows table column.toNat
      (comparison.click standing) := by
  have hrequested : store.requested { table with rows := standing.rows } column.toNat =
      Direction.next standing.shown := by
    unfold requested
    rw [h.direction?_eq]
  have hrows : (store.sorted clock { table with rows := standing.rows } column.toNat).rows =
      (comparison.click standing).rows := by
    unfold sorted
    rw [hrequested, ← hcomparison]
    rfl
  unfold step
  rw [apply_headerClick_of_table? h.table?_eq hbound]
  refine ⟨?_, ?_⟩
  · rw [← hrows]
    exact Page.table?_withRows h.table?_eq _
  · show Indicators.direction? (store.indicators.insert table.id _) table.id _ = _
    rw [hrequested]
    exact Indicators.direction?_insert_self ⟨column.toNat, _⟩

theorem step (h : store.Shows table column.toNat standing) {event : Event}
    (hother : ∀ other, event ≠ .headerClick table.id other) :
    (store.step clock event).Shows table column.toNat standing := by
  refine step_invariant (fun store' => store'.Shows table column.toNat standing)
    (fun store' haccepts => ?_) h
  cases haccepts with
  | headerClick clicked other htable hother' =>
    have hne : clicked.id ≠ table.id := fun heq => hother other (heq ▸ rfl)
    refine ⟨?_, ?_⟩
    · exact (Page.table?_withRows_of_ne hne _).trans h.table?_eq
    · exact (Indicators.direction?_insert_of_ne hne.symm _ _).trans h.direction?_eq
  | _ => exact ⟨h.table?_eq, h.direction?_eq⟩

/-- A series of events does to a column what its clicks do, one after the other. -/
theorem run (h : store.Shows table column.toNat standing)
    (hbound : column.toNat < table.columns.length) {events : List (Int × Event)}
    (hcomparison : ∀ clock, (clock, .headerClick table.id column) ∈ events →
      store.comparison clock table column.toNat = comparison)
    (honly : ∀ other, .headerClick table.id other ∈ events.map Prod.snd → other = column) :
    (store.run events).Shows table column.toNat
      (comparison.click^[(events.map Prod.snd).count (.headerClick table.id column)]
        standing) := by
  induction events generalizing store standing with
  | nil => exact h
  | cons entry events ih =>
    obtain ⟨clock, event⟩ := entry
    rw [List.map_cons] at honly ⊢
    have hrest : ∀ other, .headerClick table.id other ∈ events.map Prod.snd → other = column :=
      fun other hother => honly other (.tail _ hother)
    -- The clicks to come compare in the next store what they compare in this one.
    have hnext : ∀ later, (later, .headerClick table.id column) ∈ events →
        (store.step clock event).comparison later table column.toNat = comparison := by
      intro later hlater
      rw [step_comparison]
      exact hcomparison later (.tail _ hlater)
    show ((store.step clock event).run events).Shows table column.toNat _
    by_cases hclick : event = .headerClick table.id column
    · subst hclick
      rw [List.count_cons_self, Function.iterate_succ_apply]
      exact ih (h.headerClick hbound (hcomparison clock List.mem_cons_self)) hnext hrest
    · rw [List.count_cons_of_ne hclick]
      refine ih (h.step fun other heq => hclick ?_) hnext hrest
      rw [heq, honly other (heq ▸ List.mem_cons_self)]

end Shows

/-- Where the compared cells of a column are all of one kind, in the year that is found at each
    click on it, and it shows no direction yet, the rows after any series of events with clicks on
    that column, and no other on the table, are the stable sort of the rows before it, in a
    direction that is told from the number of those clicks. -/
theorem run_headerClicks (store : Store) (tableId : String) (column : UInt64) (table : Table)
    (kind : CellValue.Kind) (year : Int) (events : List (Int × Event))
    (htable : store.page.table? tableId = some table)
    (hcolumn : column.toNat < table.columns.length)
    (hyear : ∀ clock, (clock, .headerClick tableId column) ∈ events →
      store.yearOf clock table = year)
    (hkind : ∀ row ∈ table.rows,
      (Comparison.mk column.toNat store.settings.cellOffset.toNat year).kind? row = some kind)
    (hnone : store.indicators.direction? tableId column.toNat = none)
    (honly : ∀ other, .headerClick tableId other ∈ events.map Prod.snd → other = column)
    (hclicked : .headerClick tableId column ∈ events.map Prod.snd) :
    let comparison : Comparison := ⟨column.toNat, store.settings.cellOffset.toNat, year⟩
    let clicks := (events.map Prod.snd).count (.headerClick tableId column)
    let direction := comparison.resting table.rows clicks
    ∃ rows, (store.run events).page.table? tableId = some { table with rows } ∧
      StableSort (comparison.inOrder direction) table.rows rows ∧
      rows = table.rows.mergeSort (comparison.inOrder direction) := by
  intro comparison clicks direction
  have hid := Page.id_of_table? htable
  subst hid
  have hcomparison : ∀ clock, (clock, .headerClick table.id column) ∈ events →
      store.comparison clock table column.toNat = comparison := by
    intro clock hclock
    unfold Store.comparison
    rw [hyear clock hclock]
  have hstart : store.Shows table column.toNat ⟨none, table.rows⟩ := ⟨htable, hnone⟩
  have hend := hstart.run hcolumn hcomparison honly
  have hstable := (Comparison.stable_click_iterate hkind (List.count_pos_iff.2 hclicked)).2
  exact ⟨_, hend.table?_eq, hstable, hstable.eq_mergeSort (comparison.inOrder_trans direction)
    (comparison.inOrder_total direction)⟩

/-- Two clicks in one year put three numbers in descending order. The two that tie keep their places
    to each other. -/
theorem run_headerClicks_twice :
    let table := Table.ofTexts ["2", "1", "2.0"]
    let sorted := Table.ofTexts ["2", "2.0", "1"]
    let store := Store.ofTexts ["2", "1", "2.0"]
    let comparison : Comparison := ⟨0, store.settings.cellOffset.toNat, 2025⟩
    let events : List (Int × Event) :=
      [(2025, .headerClick "scores" 0), (2026, .roundReset), (2025, .headerClick "scores" 0)]
    store.page.table? "scores" = some table ∧ 0 < table.columns.length ∧
      (∀ clock, (clock, .headerClick "scores" 0) ∈ events → store.yearOf clock table = 2025) ∧
      (∀ row ∈ table.rows, comparison.kind? row = some .number) ∧
      store.indicators.direction? "scores" 0 = none ∧
      (∀ other, .headerClick "scores" other ∈ events.map Prod.snd → other = 0) ∧
      .headerClick "scores" 0 ∈ events.map Prod.snd ∧
      (store.run events).page.table? "scores" = some sorted ∧
      StableSort (comparison.inOrder .descending) table.rows sorted.rows := by
  intro table sorted store comparison events
  have htable : store.page.table? "scores" = some table := by decide
  have hkind : ∀ row ∈ table.rows, comparison.kind? row = some .number := by decide +kernel
  have hyear : ∀ clock, (clock, .headerClick "scores" 0) ∈ events →
      store.yearOf clock table = 2025 := by
    intro clock hclock
    have hclock : clock = 2025 := by simpa [events] using hclock
    rw [hclock]
    rfl
  have honly : ∀ other, .headerClick "scores" other ∈ events.map Prod.snd → other = 0 := by
    intro other hother
    simpa [events] using hother
  have hsorted : (store.run events).page.table? "scores" = some sorted := by decide +kernel
  refine ⟨htable, by decide, hyear, hkind, by decide, honly, by decide, hsorted, ?_⟩
  obtain ⟨rows, hrun, hstable, -⟩ := run_headerClicks store "scores" 0 table .number 2025 events
    htable (by decide) hyear hkind (by decide) honly (by decide)
  rw [hsorted] at hrun
  have hrows : sorted.rows = rows := congrArg Table.rows (Option.some_inj.1 hrun)
  have hdown : comparison.resting table.rows
      ((events.map Prod.snd).count (.headerClick "scores" 0)) = .descending :=
    Comparison.resting_of_even (by decide)
  rw [hrows, ← hdown]
  exact hstable

end Store

end Scoreboard
