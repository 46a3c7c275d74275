import Mathlib.Logic.Relation
import Scoreboard.Proofs.Sort.Exchange
import Scoreboard.Sort.Comparison

/-!
# The loop behind a sort

A sort in one loop: every turn scans the rows from the top. It exchanges the first neighbours out of
order, or turns the direction round, or ends.

## Main definitions

- `SortLoop` — what the loop holds between two turns, `Sorted.loop` at its end
- `Comparison.turn` — one turn of the loop
- `HaltsIn` — a loop ends, and in which state

## Main statements

- `Comparison.sort_cases` — what a sort can do
- `Comparison.sort_eq_sortIn` — a sort is a sort in the direction that it applies
- `Comparison.sort_flipped_iff` — when a sort turns the direction round
- `Comparison.sort_descending_of_settled` — rows in descending order rest when it is asked for
- `Comparison.eq_start_of_flips` — the loop turns the direction round first or never
- `Comparison.sort_haltsIn` — the loop ends in what `Comparison.sort` gives

## Design notes

The direction may turn round in the middle of the loop, but not after an exchange. So a run of the
loop is a run in one direction, with at most one idle turn ahead of it.
-/

namespace Scoreboard

/-- What the loop holds between two turns. -/
structure SortLoop where
  /-- The rows in their present order. -/
  rows : List Row
  direction : Direction
  /-- The exchanges so far. -/
  swaps : Nat
  /-- The direction was turned round. -/
  flipped : Bool

/-- What the loop holds at the end of a sort. -/
def Sorted.loop (sorted : Sorted) : SortLoop :=
  ⟨sorted.rows, sorted.applied, sorted.swaps, sorted.flipped⟩

/-- A loop gets from one state to another, from where it has no turn left. -/
def HaltsIn {σ : Type} (turn : σ → Option σ) (start final : σ) : Prop :=
  Relation.ReflTransGen (fun s t => turn s = some t) start final ∧ turn final = none

namespace Comparison

variable (comparison : Comparison)

/-- One turn of the loop. -/
def turn (loop : SortLoop) : Option SortLoop :=
  match exchangeFirst (comparison.outOfOrder loop.direction) loop.rows with
  | some rows => some { loop with rows, swaps := loop.swaps + 1 }
  | none =>
    if loop.swaps = 0 ∧ loop.direction = .ascending ∧ loop.flipped = false then
      some { loop with direction := .descending, flipped := true }
    else
      none

/-- Rows that have the ascending order when it is asked for are put in descending order. -/
theorem sort_of_settled {rows : List Row}
    (h : Settled (comparison.outOfOrder .ascending) rows) :
    comparison.sort .ascending rows =
      ⟨(comparison.sortIn .descending rows).1, .descending,
        (comparison.sortIn .descending rows).2, true⟩ := by
  have hidle : (comparison.sortIn .ascending rows).2 = 0 := exchangeSort_snd_eq_zero_iff.2 h
  simp only [sort, hidle, and_self, if_true]

/-- A sort in ascending order is idle only where the rows have that order. -/
theorem sortIn_busy {requested : Direction} {rows : List Row}
    (h : requested = .ascending → ¬ Settled (comparison.outOfOrder .ascending) rows) :
    ¬ (requested = .ascending ∧ (comparison.sortIn requested rows).2 = 0) := by
  rintro ⟨rfl, hidle⟩
  exact h rfl (exchangeSort_snd_eq_zero_iff.1 hidle)

/-- All other rows are put in the order that is asked for. -/
theorem sort_of_not_settled {requested : Direction} {rows : List Row}
    (h : requested = .ascending → ¬ Settled (comparison.outOfOrder .ascending) rows) :
    comparison.sort requested rows =
      ⟨(comparison.sortIn requested rows).1, requested,
        (comparison.sortIn requested rows).2, false⟩ := by
  simp only [sort, comparison.sortIn_busy h, if_false]

/-- A sort turns the direction round, or puts the rows in the order that is asked for. -/
theorem sort_cases (requested : Direction) (rows : List Row) :
    (requested = .ascending ∧ Settled (comparison.outOfOrder .ascending) rows ∧
      comparison.sort requested rows =
        ⟨(comparison.sortIn .descending rows).1, .descending,
          (comparison.sortIn .descending rows).2, true⟩) ∨
    ((requested = .ascending → ¬ Settled (comparison.outOfOrder .ascending) rows) ∧
      comparison.sort requested rows =
        ⟨(comparison.sortIn requested rows).1, requested,
          (comparison.sortIn requested rows).2, false⟩) := by
  by_cases h : requested = .ascending ∧ Settled (comparison.outOfOrder .ascending) rows
  · obtain ⟨rfl, hsettled⟩ := h
    exact .inl ⟨rfl, hsettled, comparison.sort_of_settled hsettled⟩
  · exact .inr ⟨not_and.1 h, comparison.sort_of_not_settled (not_and.1 h)⟩

/-- A sort is a sort in the direction that it applies. -/
theorem sort_eq_sortIn (requested : Direction) (rows : List Row) :
    ((comparison.sort requested rows).rows, (comparison.sort requested rows).swaps) =
      comparison.sortIn (comparison.sort requested rows).applied rows := by
  rcases comparison.sort_cases requested rows with ⟨-, -, hsort⟩ | ⟨-, hsort⟩ <;> rw [hsort]

theorem sort_rows (requested : Direction) (rows : List Row) :
    (comparison.sort requested rows).rows =
      (comparison.sortIn (comparison.sort requested rows).applied rows).1 :=
  congrArg Prod.fst (comparison.sort_eq_sortIn requested rows)

theorem sort_swaps (requested : Direction) (rows : List Row) :
    (comparison.sort requested rows).swaps =
      (comparison.sortIn (comparison.sort requested rows).applied rows).2 :=
  congrArg Prod.snd (comparison.sort_eq_sortIn requested rows)

theorem sort_perm (requested : Direction) (rows : List Row) :
    (comparison.sort requested rows).rows.Perm rows := by
  rw [sort_rows]
  exact exchangeSort_perm ..

theorem settled_sort (requested : Direction) (rows : List Row) :
    Settled (comparison.outOfOrder (comparison.sort requested rows).applied)
      (comparison.sort requested rows).rows := by
  rw [sort_rows]
  exact exchangeSort_settled ..

section

variable {comparison} {requested : Direction} {rows : List Row}

/-- A sort turns the direction round just where the ascending order is asked for and the rows have
    it. -/
theorem sort_flipped_iff :
    (comparison.sort requested rows).flipped = true ↔
      requested = .ascending ∧ Settled (comparison.outOfOrder .ascending) rows := by
  rcases comparison.sort_cases requested rows with ⟨rfl, hsettled, hsort⟩ | ⟨hother, hsort⟩
  · simp [hsort, hsettled]
  · simpa [hsort] using hother

theorem sort_applied :
    (comparison.sort requested rows).applied =
      if (comparison.sort requested rows).flipped then .descending else requested := by
  rcases comparison.sort_cases requested rows with ⟨-, -, hsort⟩ | ⟨-, hsort⟩ <;> rw [hsort] <;> rfl

/-- Rows that a sort leaves in ascending order did not have it before. -/
theorem swaps_pos_of_ascending (h : (comparison.sort requested rows).applied = .ascending) :
    0 < (comparison.sort requested rows).swaps := by
  rcases comparison.sort_cases requested rows with ⟨-, -, hsort⟩ | ⟨hother, hsort⟩
  · rw [hsort] at h
    cases h
  · rw [hsort] at h ⊢
    exact Nat.pos_of_ne_zero fun hidle => comparison.sortIn_busy hother ⟨h, hidle⟩

/-- Rows in descending order rest when it is asked for. -/
theorem sort_descending_of_settled (h : Settled (comparison.outOfOrder .descending) rows) :
    comparison.sort .descending rows = ⟨rows, .descending, 0, false⟩ := by
  rw [comparison.sort_of_not_settled (fun hother => absurd hother (by decide)), sortIn,
    exchangeSort_of_settled h]

end

/-- After any turn the loop has made an exchange, or has turned the direction round. -/
theorem busy_of_turn {loop next : SortLoop} (h : comparison.turn loop = some next) :
    next.swaps ≠ 0 ∨ next.flipped = true := by
  unfold turn at h
  split at h
  · cases h
    exact .inl (Nat.succ_ne_zero _)
  · split at h
    · cases h
      exact .inr rfl
    · cases h

/-- The loop turns the direction round in its first turn or never. -/
theorem eq_start_of_flips {start loop next : SortLoop}
    (hreach : Relation.ReflTransGen (fun s t => comparison.turn s = some t) start loop)
    (hturn : comparison.turn loop = some next) (hflips : next.flipped ≠ loop.flipped) :
    loop = start := by
  rcases Relation.ReflTransGen.cases_tail hreach with hsame | ⟨before, -, hbefore⟩
  · exact hsame
  · have hbusy := comparison.busy_of_turn hbefore
    unfold turn at hturn
    split at hturn
    · cases hturn
      exact absurd rfl hflips
    · split at hturn
      · next hidle =>
        rcases hbusy with hswaps | hflipped
        · exact absurd hidle.1 hswaps
        · rw [hidle.2.2] at hflipped
          cases hflipped
      · cases hturn

/-- As long as there is something to exchange, the loop runs as the sort in its direction. -/
theorem turn_reaches_sortIn (direction : Direction) (rows : List Row) (swaps : Nat)
    (flipped : Bool) :
    Relation.ReflTransGen (fun s t => comparison.turn s = some t)
      ⟨rows, direction, swaps, flipped⟩
      ⟨(comparison.sortIn direction rows).1, direction,
        swaps + (comparison.sortIn direction rows).2, flipped⟩ := by
  unfold sortIn
  -- The exchanges that are still to come shrink, and the count of those made grows.
  induction rows using exchangeSort_induction (comparison.outOfOrder_asymm direction)
    generalizing swaps with
  | settled rows hrows => rw [exchangeSort_of_settled hrows]; exact .refl
  | exchange rows rows' hrows ih =>
    have hturn : comparison.turn ⟨rows, direction, swaps, flipped⟩ =
        some ⟨rows', direction, swaps + 1, flipped⟩ := by
      simp only [turn, hrows]
    rw [exchangeSort_of_exchangeFirst hrows, Nat.add_comm _ 1, ← Nat.add_assoc]
    exact .head hturn (ih (swaps + 1))

/-- The loop ends, and holds at its end what the sort gives. -/
theorem sort_haltsIn (requested : Direction) (rows : List Row) :
    HaltsIn comparison.turn ⟨rows, requested, 0, false⟩
      (comparison.sort requested rows).loop := by
  have hlast (direction : Direction) : exchangeFirst (comparison.outOfOrder direction)
      (comparison.sortIn direction rows).1 = none :=
    exchangeFirst_eq_none_iff.2 (exchangeSort_settled ..)
  have hrun (direction : Direction) (flipped : Bool) :=
    comparison.turn_reaches_sortIn direction rows 0 flipped
  simp only [Nat.zero_add] at hrun
  rcases comparison.sort_cases requested rows with ⟨rfl, hsettled, hsort⟩ | ⟨hother, hsort⟩
  · have hflip : comparison.turn ⟨rows, .ascending, 0, false⟩ =
        some ⟨rows, .descending, 0, true⟩ := by
      simp [turn, exchangeFirst_eq_none_iff.2 hsettled]
    rw [hsort]
    exact ⟨.head hflip (hrun .descending true), by simp [turn, Sorted.loop, hlast]⟩
  · rw [hsort]
    refine ⟨hrun requested false, ?_⟩
    simp only [turn, Sorted.loop, hlast]
    rw [if_neg fun hc => comparison.sortIn_busy hother ⟨hc.2.1, hc.1⟩]

end Comparison

end Scoreboard
