import Scoreboard.Proofs.Sort.Loop

/-!
# Sorting by exchanges is insertion

A sort that looks for its next exchange from the top anew does the same exchanges as one that takes
the elements from top to bottom and moves each of them up as far as it goes.

## Main definitions

- `moveUp` — an element moved up past those above it
- `insertionPass` — the elements of a list moved up one after the other
- `Comparison.insertionSort` — the rows put in order by such passes

## Main statements

- `exchangeSort_eq_insertionPass` — the two ways give the same list in the same number of exchanges

## Design notes

The elements that are in place already are kept in reverse, nearest first, since an element on its
way up meets the nearest first. They stay settled, so they hold no exchange that could come before
the next one of the element on its way. No more than that is known of them: they need not be in
order pair by pair.
-/

namespace Scoreboard

universe u

variable {α : Type u}

/-- An element moved up past those above it as long as they are out of order with it, and how many
    it has passed. The elements above it are given nearest first. -/
def moveUp (outOfOrder : α → α → Bool) (x : α) : List α → List α × Nat
  | [] => ([x], 0)
  | y :: above =>
    if outOfOrder y x then
      let (placed, moves) := moveUp outOfOrder x above
      (y :: placed, moves + 1)
    else
      (x :: y :: above, 0)

/-- Elements moved up one after the other, below some that are in place already and nearest first,
    and the number of moves. -/
def moveUpAll (outOfOrder : α → α → Bool) (above : List α) : List α → List α × Nat
  | [] => (above, 0)
  | x :: rest =>
    let (placed, moves) := moveUp outOfOrder x above
    let (sorted, others) := moveUpAll outOfOrder placed rest
    (sorted, moves + others)

/-- The elements of a list taken from top to bottom, each moved up, and the number of moves. -/
def insertionPass (outOfOrder : α → α → Bool) (xs : List α) : List α × Nat :=
  let (sorted, moves) := moveUpAll outOfOrder [] xs
  (sorted.reverse, moves)

variable {outOfOrder : α → α → Bool}

theorem head?_moveUp (outOfOrder : α → α → Bool) (x : α) (above : List α) :
    (moveUp outOfOrder x above).1.head? = some x ∨
      (moveUp outOfOrder x above).1.head? = above.head? := by
  cases above with
  | nil => exact .inl rfl
  | cons y above =>
    unfold moveUp
    split
    · exact .inr rfl
    · exact .inl rfl

/-- Moving an element up keeps the others in their places to each other. -/
theorem sublist_moveUp (outOfOrder : α → α → Bool) (x : α) (above : List α) :
    above.Sublist (moveUp outOfOrder x above).1 := by
  induction above with
  | nil => exact List.nil_sublist _
  | cons y above ih =>
    unfold moveUp
    split
    · exact ih.cons_cons y
    · exact List.sublist_cons_self x _

theorem sublist_moveUpAll (outOfOrder : α → α → Bool) (above rest : List α) :
    above.Sublist (moveUpAll outOfOrder above rest).1 := by
  induction rest generalizing above with
  | nil => exact List.Sublist.refl above
  | cons x rest ih => exact (sublist_moveUp outOfOrder x above).trans (ih _)

theorem settled_moveUp (asymm : Asymmetric outOfOrder) {x : α} {above : List α}
    (h : Settled outOfOrder above.reverse) :
    Settled outOfOrder (moveUp outOfOrder x above).1.reverse := by
  unfold Settled at h ⊢
  rw [List.isChain_reverse] at h ⊢
  induction above with
  | nil => exact List.IsChain.singleton x
  | cons y above ih =>
    unfold moveUp
    split
    · next hyx =>
      refine List.IsChain.cons (ih h.tail) fun z hz => ?_
      -- What comes to stand above y is the element that has passed it, or stood there before.
      rcases head?_moveUp outOfOrder x above with hx | hold
      · rw [hx] at hz
        cases hz
        exact asymm y x hyx
      · rw [hold] at hz
        exact h.rel_head? hz
    · next hyx =>
      refine List.IsChain.cons_cons ?_ h
      simpa using hyx

section

variable (asymm : Asymmetric outOfOrder)

/-- The exchanges of a sort move the first element below a settled front up. Behind it stand those
    that it has passed already. -/
theorem exchangeSort_moveUp (x : α) (above passed rest : List α)
    (h : Settled outOfOrder above.reverse) :
    exchangeSort outOfOrder asymm (above.reverse ++ x :: passed ++ rest) =
      let (placed, moves) := moveUp outOfOrder x above
      let (sorted, others) := exchangeSort outOfOrder asymm (placed.reverse ++ passed ++ rest)
      (sorted, moves + others) := by
  induction above generalizing passed with
  | nil => simp [moveUp]
  | cons y above ih =>
    unfold moveUp
    cases hyx : outOfOrder y x with
    | false => simp [List.append_assoc]
    | true =>
      have hfront : Settled outOfOrder (above.reverse ++ [y]) := by
        simpa only [List.reverse_cons] using h
      have hstep : exchangeFirst outOfOrder ((y :: above).reverse ++ x :: passed ++ rest) =
          some (above.reverse ++ x :: y :: passed ++ rest) := by
        have hback := exchangeFirst_append hfront (passed ++ rest) hyx
        simpa only [List.reverse_cons, List.append_assoc, List.cons_append, List.nil_append]
          using hback
      have hinner := ih (y :: passed) hfront.left_of_append
      rw [exchangeSort_of_exchangeFirst hstep]
      simp only [List.append_assoc, List.cons_append] at hinner ⊢
      rw [hinner]
      simp only [if_true, List.reverse_cons, List.append_assoc, List.cons_append, List.nil_append]
      rw [Nat.add_right_comm]

theorem exchangeSort_moveUpAll (above rest : List α) (h : Settled outOfOrder above.reverse) :
    exchangeSort outOfOrder asymm (above.reverse ++ rest) =
      ((moveUpAll outOfOrder above rest).1.reverse, (moveUpAll outOfOrder above rest).2) := by
  induction rest generalizing above with
  | nil => simpa [moveUpAll] using exchangeSort_of_settled h
  | cons x rest ih =>
    have hmove := exchangeSort_moveUp asymm x above [] rest h
    have hrest := ih (moveUp outOfOrder x above).1 (settled_moveUp asymm h)
    simp only [List.append_assoc, List.cons_append, List.nil_append] at hmove
    rw [hmove, hrest]
    rfl

/-- A sort by exchanges and an insertion pass give the same list, with as many moves as
    exchanges. -/
theorem exchangeSort_eq_insertionPass (xs : List α) :
    exchangeSort outOfOrder asymm xs = insertionPass outOfOrder xs :=
  exchangeSort_moveUpAll asymm [] xs List.IsChain.nil

end

namespace Comparison

/-- The rows put in order by an insertion pass, and by another one in descending order if the first
    was to be in ascending order and moved nothing. -/
def insertionSort (comparison : Comparison) (requested : Direction) (rows : List Row) : Sorted :=
  let (sorted, moves) := insertionPass (comparison.outOfOrder requested) rows
  if requested = .ascending ∧ moves = 0 then
    let (sorted, moves) := insertionPass (comparison.outOfOrder .descending) sorted
    ⟨sorted, .descending, moves, true⟩
  else
    ⟨sorted, requested, moves, false⟩

/-- A sort of rows is an insertion sort, with as many exchanges as moves, and the loop that looks
    for its next exchange from the top anew ends in what the insertion sort gives. -/
theorem sort_eq_insertionSort (comparison : Comparison) (requested : Direction)
    (rows : List Row) :
    comparison.sort requested rows = comparison.insertionSort requested rows ∧
      HaltsIn comparison.turn ⟨rows, requested, 0, false⟩
        (comparison.insertionSort requested rows).loop := by
  have hpass (direction : Direction) (rows : List Row) :
      insertionPass (comparison.outOfOrder direction) rows = comparison.sortIn direction rows :=
    (exchangeSort_eq_insertionPass (comparison.outOfOrder_asymm direction) rows).symm
  have heq : comparison.sort requested rows = comparison.insertionSort requested rows := by
    by_cases h : requested = .ascending ∧ Settled (comparison.outOfOrder .ascending) rows
    · obtain ⟨rfl, hsettled⟩ := h
      -- The first pass has moved nothing, so the second one starts from the same rows.
      have hidle : comparison.sortIn .ascending rows = (rows, 0) :=
        exchangeSort_of_settled hsettled
      rw [comparison.sort_of_settled hsettled]
      simp only [insertionSort, hpass, hidle, and_self, if_true]
    · rw [not_and] at h
      rw [comparison.sort_of_not_settled h]
      simp only [insertionSort, hpass, comparison.sortIn_busy h, if_false]
  exact ⟨heq, heq ▸ comparison.sort_haltsIn requested rows⟩

end Comparison

end Scoreboard
