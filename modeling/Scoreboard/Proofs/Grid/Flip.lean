import Scoreboard.Proofs.Grid.Edit
import Scoreboard.Proofs.Grid.Repeat

/-!
# Clicks that turn the direction round

A click that asks for the ascending order of rows that have it already puts them in descending order
instead, while the header shows the ascending one. So the next click on it asks for the order in
which the rows stand. No two neighbours are out of order then, which is all that a sort looks at,
and so the click leaves the rows alone, even where the column as a whole has no order.

## Main statements

- `Store.Shows.rests` — a click for the descending order leaves rows that stand in it as they are
- `Store.sort_flips_then_rests` — when a sort turns the direction round, and what comes after it
-/

namespace Scoreboard

theorem Page.withRows_self {page : Page} {tableId : String} {table : Table}
    (h : page.table? tableId = some table) : page.withRows table table.rows = page := by
  have hid := id_of_table? h
  subst hid
  unfold withRows
  rw [Store.replaceFirst_self h]

namespace Store

variable {store store' : Store} {clock : Int} {table : Table} {comparison : Comparison}
  {column : UInt64}

/-- A click that asks for the descending order of rows that stand in it changes nothing but the
    indicator. -/
theorem Shows.rests {rows : List Row}
    (h : store.Shows table column.toNat ⟨some .ascending, rows⟩)
    (hbound : column.toNat < table.columns.length)
    (hcomparison : store.comparison clock table column.toNat = comparison)
    (hsettled : Settled (comparison.outOfOrder .descending) rows) :
    store.apply clock (.headerClick table.id column) =
      .ok ({ store with
          indicators := store.indicators.insert table.id ⟨column.toNat, .descending⟩ },
        some ⟨table.id, column.toNat, .descending, .descending, false, 0, rows.map Row.id,
          rows.map Row.id⟩) := by
  have hrequested : store.requested { table with rows } column.toNat = .descending := by
    unfold requested
    rw [h.direction?_eq]
    rfl
  have hsorted : store.sorted clock { table with rows } column.toNat =
      ⟨rows, .descending, 0, false⟩ := by
    unfold sorted
    rw [hrequested]
    show (store.comparison clock table column.toNat).sort .descending rows = _
    rw [hcomparison, Comparison.sort_descending_of_settled hsettled]
  have hpage : store.page.withRows { table with rows } rows = store.page :=
    Page.withRows_self h.table?_eq
  rw [apply_headerClick_of_table? h.table?_eq hbound, clicked, clickReport, hsorted, hrequested,
    hpage]
  rfl

theorem clicked_of_apply {tableId : String} {report : SortReport}
    (h : store.apply clock (.headerClick tableId column) = .ok (store', some report)) :
    ∃ table, store.page.table? tableId = some table ∧ column.toNat < table.columns.length ∧
      store' = store.clicked clock table column.toNat ∧
      report = store.clickReport clock table column.toNat := by
  rw [apply_headerClick] at h
  split at h
  · cases h
  · next table htable =>
    split at h
    · next hcolumn =>
      cases h
      exact ⟨table, htable, hcolumn, rfl, rfl⟩
    · cases h

/-- A sort turns the direction round just where the ascending order is asked for and no neighbours
    are out of it, in its first turn or never, and it applies the descending order then. What it
    leaves in ascending order took an exchange. What it leaves in descending order, a sort for that
    order does not touch. So after a click that turned the direction round, whatever else happens to
    the page, the next click on that table, if it is on the same header and in the same year,
    changes nothing but the indicator. -/
theorem sort_flips_then_rests :
    (∀ (comparison : Comparison) (requested : Direction) (rows : List Row),
      let start : SortLoop := ⟨rows, requested, 0, false⟩
      let sorted := comparison.sort requested rows
      HaltsIn comparison.turn start sorted.loop ∧
        (∀ loop next, Relation.ReflTransGen (fun s t => comparison.turn s = some t) start loop →
          comparison.turn loop = some next → next.flipped ≠ loop.flipped → loop = start) ∧
        (sorted.flipped = true ↔ requested = .ascending ∧
          ∀ (i : Nat) (hi : i + 1 < rows.length),
            comparison.outOfOrder .ascending rows[i] rows[i + 1] = false) ∧
        sorted.applied = (if sorted.flipped then .descending else requested) ∧
        (sorted.applied = .ascending → 0 < sorted.swaps) ∧
        (sorted.applied = .descending →
          comparison.sort .descending sorted.rows = ⟨sorted.rows, .descending, 0, false⟩)) ∧
    ∀ (store store' : Store) (clock : Int) (tableId : String) (column : UInt64)
        (report : SortReport),
      store.apply clock (.headerClick tableId column) = .ok (store', some report) →
        report.applied = .descending →
          (∃ table, store'.page.table? tableId = some table ∧
            (store'.comparison clock table column.toNat).sort .descending table.rows =
              ⟨table.rows, .descending, 0, false⟩) ∧
          (report.flipped = true →
            ∀ events, (∀ other, .headerClick tableId other ∉ events.map Prod.snd) →
              ∀ clock', (∀ table ∈ store'.page.table? tableId,
                store'.yearOf clock' table = store'.yearOf clock table) →
              let later := store'.run events
              later.apply clock' (.headerClick tableId column) =
                .ok ({ later with
                    indicators := later.indicators.insert tableId ⟨column.toNat, .descending⟩ },
                  some { report with
                    requested := .descending
                    flipped := false
                    swaps := 0
                    before := report.after })) := by
  refine ⟨?_, ?_⟩
  · intro comparison requested rows start sorted
    refine ⟨comparison.sort_haltsIn requested rows, ?_, ?_, Comparison.sort_applied,
      Comparison.swaps_pos_of_ascending, fun happlied => ?_⟩
    · intro loop next hreach hturn hflips
      exact comparison.eq_start_of_flips hreach hturn hflips
    · rw [Comparison.sort_flipped_iff, Settled, List.isChain_iff_getElem]
    · have hsettled := comparison.settled_sort requested rows
      rw [happlied] at hsettled
      exact Comparison.sort_descending_of_settled hsettled
  · intro store store' clock tableId column report happly happlied
    obtain ⟨table, htable, hcolumn, rfl, rfl⟩ := clicked_of_apply happly
    have hid := Page.id_of_table? htable
    subst hid
    have hsettled : Settled
        ((store.comparison clock table column.toNat).outOfOrder
          (store.sorted clock table column.toNat).applied)
        (store.sorted clock table column.toNat).rows := Comparison.settled_sort ..
    replace happlied : (store.sorted clock table column.toNat).applied = .descending := happlied
    rw [happlied] at hsettled
    have htable' := Page.table?_withRows htable (store.sorted clock table column.toNat).rows
    refine ⟨⟨_, htable', Comparison.sort_descending_of_settled hsettled⟩, ?_⟩
    intro hflipped events hother clock' hyear later
    have hrequested : store.requested table column.toNat = .ascending :=
      (Comparison.sort_flipped_iff.1 hflipped).1
    have hshows : (store.clicked clock table column.toNat).Shows table column.toNat
        ⟨some .ascending, (store.sorted clock table column.toNat).rows⟩ := by
      refine ⟨htable', ?_⟩
      rw [← hrequested]
      exact Indicators.direction?_insert_self ⟨column.toNat, _⟩
    -- There is no click on the table in between, and so nothing that such a click would compare.
    have hnone : ∀ between, (between, .headerClick table.id column) ∈ events →
        (store.clicked clock table column.toNat).comparison between table column.toNat =
          store.comparison clock table column.toNat :=
      fun between hclick => absurd (List.mem_map_of_mem hclick) (hother column)
    have hlater := hshows.run hcolumn hnone fun other hclick => absurd hclick (hother other)
    rw [List.count_eq_zero_of_not_mem (hother column)] at hlater
    have hsame : store.yearOf clock' table = store.yearOf clock table :=
      hyear { table with rows := (store.sorted clock table column.toNat).rows } htable'
    have hcomparison : later.comparison clock' table column.toNat =
        store.comparison clock table column.toNat := by
      rw [run_comparison]
      exact congrArg (Comparison.mk column.toNat _) hsame
    rw [hlater.rests hcolumn hcomparison hsettled, ← happlied]
    rfl

/-- A column of numbers with a stamp among them has no order. The first click finds no neighbours
    out of the ascending order and turns the direction round, and the next one leaves the rows
    alone. -/
theorem sort_flips_then_rests_mixed :
    let before := ["1", "2", "3/4 10:30am", "5"]
    let after := ["2", "1", "3/4 10:30am", "5"]
    let store := Store.ofTexts before
    let clicked := store.clicked 2025 (Table.ofTexts before) 0
    let later := clicked.run [(2025, .roundReset)]
    store.apply 2025 (.headerClick "scores" 0) =
        .ok (clicked, some ⟨"scores", 0, .ascending, .descending, true, 1, before, after⟩) ∧
      later.apply 2025 (.headerClick "scores" 0) =
        .ok ({ later with indicators := later.indicators.insert "scores" ⟨0, .descending⟩ },
          some ⟨"scores", 0, .descending, .descending, false, 0, after, after⟩) := by
  intro before after store clicked later
  have hreport : store.clickReport 2025 (Table.ofTexts before) 0 =
      ⟨"scores", 0, .ascending, .descending, true, 1, before, after⟩ := by
    decide +kernel
  have htable : store.page.table? "scores" = some (Table.ofTexts before) := by decide
  have hclick : store.apply 2025 (.headerClick "scores" 0) =
      .ok (clicked, some ⟨"scores", 0, .ascending, .descending, true, 1, before, after⟩) := by
    rw [← hreport]
    exact apply_headerClick_of_table? htable (show (0 : UInt64).toNat < 1 by decide)
  have hother : ∀ other,
      .headerClick "scores" other ∉ [((2025 : Int), Event.roundReset)].map Prod.snd := by
    simp
  exact ⟨hclick,
    (sort_flips_then_rests.2 _ _ _ _ _ _ hclick rfl).2 rfl _ hother 2025 fun _ _ => rfl⟩

end Store

end Scoreboard
