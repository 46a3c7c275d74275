import Mathlib.Algebra.BigOperators.Fin
import Mathlib.Data.Fintype.Prod
import Mathlib.Data.List.NodupEquivFin
import Scoreboard.Proofs.List
import Scoreboard.Proofs.Sort.Loop

/-!
# Where a sort puts each row

Every pair of rows that changes sides during a sort does so in exactly one exchange. So the number
of exchanges is the number of reversed pairs.

## Main definitions

- `Placement` — the new position of every element, where only pairs out of order change sides
- `reversedPairs` — the pairs of positions that change sides

## Main statements

- `Placement.unique` — there is only one way to place the elements
- `exists_placement` — a sort by exchanges places the elements, once for each exchange

## Design notes

Rows may be equal, so a row alone does not tell where it came from. The sort is run on the old
positions instead: positions are compared as the rows that stand there, and are all distinct.
-/

namespace Scoreboard

universe u

variable {α : Type u} {outOfOrder : α → α → Bool}

/-- The new position of every element of a list, where two elements change sides only if they were
    out of order. -/
structure Placement (outOfOrder : α → α → Bool) (xs ys : List α)
    (place : Fin xs.length ≃ Fin ys.length) : Prop where
  /-- The elements stand at their new positions. -/
  carries : ∀ i, ys.get (place i) = xs.get i
  /-- Elements that change sides were out of order. -/
  reverses : ∀ i j, i < j → place j < place i → outOfOrder (xs.get i) (xs.get j) = true

/-- The pairs of positions whose elements change sides. -/
def reversedPairs {m n : Nat} (place : Fin m ≃ Fin n) : Finset (Fin m × Fin m) :=
  Finset.univ.filter fun pair => pair.1 < pair.2 ∧ place pair.2 < place pair.1

namespace Placement

variable {xs ys : List α} {place place' : Fin xs.length ≃ Fin ys.length}

theorem lt_of_eq (h : Placement outOfOrder xs ys place) (asymm : Asymmetric outOfOrder)
    {i j : Fin xs.length} (hij : i < j) (heq : xs.get i = xs.get j) : place i < place j := by
  by_contra hnot
  have hne : place j ≠ place i := fun hc => ne_of_gt hij (place.injective hc)
  have hrev := h.reverses i j hij (lt_of_le_of_ne (not_lt.1 hnot) hne)
  rw [heq] at hrev
  have hnone := asymm _ _ hrev
  rw [hrev] at hnone
  cases hnone

/-- Of two placements that agree so far, neither puts the next element further up. -/
theorem not_lt_of_agree (h : Placement outOfOrder xs ys place)
    (h' : Placement outOfOrder xs ys place') (asymm : Asymmetric outOfOrder) {i : Fin xs.length}
    (agree : ∀ j, j < i → place j = place' j) : ¬ place i < place' i := by
  intro hlt
  -- Whatever the second placement puts there is equal to the element itself.
  obtain ⟨j, hj⟩ := place'.surjective (place i)
  have heq : xs.get i = xs.get j := by
    rw [← h.carries i, ← h'.carries j, hj]
  rcases lt_trichotomy i j with hij | rfl | hji
  · have hcross := h'.lt_of_eq asymm hij heq
    rw [hj] at hcross
    exact lt_asymm hlt hcross
  · exact ne_of_gt hlt hj
  · have hsame : place j = place i := (agree j hji).trans hj
    exact ne_of_lt hji (place.injective hsame)

/-- There is only one way to place the elements. -/
theorem unique (h : Placement outOfOrder xs ys place) (h' : Placement outOfOrder xs ys place')
    (asymm : Asymmetric outOfOrder) : place = place' := by
  have hall : ∀ i, place i = place' i := by
    intro i
    induction hn : i.val using Nat.strongRecOn generalizing i with
    | ind n ih =>
      have agree : ∀ j, j < i → place j = place' j := by
        intro j hj
        exact ih j.val (by omega) j rfl
      have hle := not_lt.1 (h.not_lt_of_agree h' asymm agree)
      have hge := not_lt.1 (h'.not_lt_of_agree h asymm fun j hj => (agree j hj).symm)
      exact le_antisymm hge hle
  exact Equiv.ext hall

end Placement

/-- Exchanging two neighbours changes the number of pairs by theirs alone. -/
theorem inversions_exchange (test : α → α → Bool) (front back : List α) (a b : α) :
    inversions test (front ++ b :: a :: back) + (if test a b then 1 else 0) =
      inversions test (front ++ a :: b :: back) + (if test b a then 1 else 0) := by
  induction front with
  | nil =>
    simp only [List.nil_append, inversions, List.countP_cons]
    omega
  | cons c front ih =>
    have hperm : (front ++ b :: a :: back).Perm (front ++ a :: b :: back) :=
      List.Perm.append_left front (List.Perm.swap a b back)
    have hcount := hperm.countP_eq (test c)
    simp only [List.cons_append, inversions]
    omega

theorem inversions_eq_zero {test : α → α → Bool} {xs : List α}
    (h : xs.Pairwise fun a b => test a b = false) : inversions test xs = 0 := by
  induction xs with
  | nil => rfl
  | cons a rest ih =>
    obtain ⟨hhead, hrest⟩ := List.pairwise_cons.1 h
    have hcount : rest.countP (test a) = 0 := by
      rw [List.countP_eq_zero]
      intro b hb
      simp [hhead b hb]
    rw [inversions, hcount, ih hrest]

theorem inversions_le (test : α → α → Bool) (xs : List α) :
    inversions test xs ≤ xs.length * (xs.length - 1) / 2 := by
  rw [← Nat.choose_two_right]
  induction xs with
  | nil => rfl
  | cons a rest ih =>
    have hhead : rest.countP (test a) ≤ rest.length := List.countP_le_length
    have hsplit : (rest.length + 1).choose 2 = rest.length + rest.length.choose 2 := by
      rw [Nat.choose_succ_succ', Nat.choose_one_right]
    rw [inversions, List.length_cons, hsplit]
    omega

theorem countP_eq_sum (test : α → Bool) (xs : List α) :
    xs.countP test = ∑ i : Fin xs.length, if test (xs.get i) then 1 else 0 := by
  induction xs with
  | nil => rfl
  | cons a rest ih =>
    show (a :: rest).countP test =
      ∑ i : Fin (rest.length + 1), if test ((a :: rest).get i) then 1 else 0
    rw [List.countP_cons, ih, Fin.sum_univ_succ, Nat.add_comm]
    rfl

/-- The inversions are the pairs of positions whose elements pass the test. -/
theorem inversions_eq_card (test : α → α → Bool) (xs : List α) :
    inversions test xs = (Finset.univ.filter fun pair : Fin xs.length × Fin xs.length =>
      pair.1 < pair.2 ∧ test (xs.get pair.1) (xs.get pair.2) = true).card := by
  rw [Finset.card_filter, Fintype.sum_prod_type]
  induction xs with
  | nil => rfl
  | cons a rest ih =>
    show inversions test (a :: rest) = ∑ i : Fin (rest.length + 1), ∑ j : Fin (rest.length + 1),
      if i < j ∧ test ((a :: rest).get i) ((a :: rest).get j) then 1 else 0
    rw [inversions, ih, countP_eq_sum, Fin.sum_univ_succ]
    congr 1
    · rw [Fin.sum_univ_succ]
      simp
    · refine Finset.sum_congr rfl fun i _ => ?_
      rw [Fin.sum_univ_succ]
      simp

/-- What holds of the old positions after some exchanges: they are all there, only those of elements
    out of order have changed sides, and each such pair took one exchange. -/
structure Trail (outOfOrder : α → α → Bool) (xs : List α) (order : List (Fin xs.length))
    (count : Nat) : Prop where
  /-- Every position is there. -/
  perm : order.Perm (List.finRange xs.length)
  /-- Positions change sides only if their elements were out of order. -/
  reverses : order.Pairwise fun i j => i < j ∨ outOfOrder (xs.get j) (xs.get i) = true
  /-- Each pair that has changed sides took one exchange. -/
  counts : inversions (fun i j => decide (j < i)) order = count

namespace Trail

theorem start (xs : List α) : Trail outOfOrder xs (List.finRange xs.length) 0 where
  perm := List.Perm.refl _
  reverses := (List.pairwise_lt_finRange xs.length).imp fun hij => .inl hij
  counts := by
    refine inversions_eq_zero ((List.pairwise_lt_finRange xs.length).imp fun hij => ?_)
    simpa using le_of_lt hij

/-- An exchange turns one pair of positions, which stood in order before. -/
theorem step (asymm : Asymmetric outOfOrder) {xs : List α} {order order' : List (Fin xs.length)}
    {count : Nat} (h : Trail outOfOrder xs order count)
    (hstep : exchangeFirst (fun i j => outOfOrder (xs.get i) (xs.get j)) order = some order') :
    Trail outOfOrder xs order' (count + 1) := by
  have hperm := exchangeFirst_perm hstep
  obtain ⟨front, i, j, back, rfl, rfl, hij, -⟩ := exchangeFirst_eq_some_iff.1 hstep
  have hlt : i < j := by
    have hpair := (List.pairwise_append.1 h.reverses).2.1
    rcases (List.pairwise_cons.1 hpair).1 j List.mem_cons_self with hlt | hrev
    · exact hlt
    · rw [asymm _ _ hij] at hrev
      cases hrev
  refine ⟨hperm.trans h.perm, List.pairwise_exchange h.reverses (.inr hij), ?_⟩
  have hcount := inversions_exchange (fun i j => decide (j < i)) front back i j
  simp only [hlt, not_lt_of_gt hlt, decide_true, decide_false, Bool.false_eq_true, if_true,
    if_false, h.counts] at hcount
  omega

/-- The positions in their new order place the elements. -/
theorem exists_placement {xs : List α} {order : List (Fin xs.length)} {count : Nat}
    (h : Trail outOfOrder xs order count) :
    ∃ place : Fin xs.length ≃ Fin (order.map xs.get).length,
      Placement outOfOrder xs (order.map xs.get) place ∧ (reversedPairs place).card = count := by
  have hnodup : order.Nodup := h.perm.nodup_iff.2 (List.nodup_finRange _)
  have hmem : ∀ i, i ∈ order := fun i => h.perm.mem_iff.2 (List.mem_finRange i)
  -- The new position of an element is the index of its old one.
  let old : Fin order.length ≃ Fin xs.length := hnodup.getEquivOfForallMemList order hmem
  let place : Fin xs.length ≃ Fin (order.map xs.get).length :=
    old.symm.trans (finCongr (List.length_map _).symm)
  have hget (i : Fin xs.length) : order.get (old.symm i) = i := old.apply_symm_apply i
  have hplace (i j : Fin xs.length) : place i < place j ↔ old.symm i < old.symm j := Iff.rfl
  refine ⟨place, ⟨?_, ?_⟩, ?_⟩
  · intro i
    show (order.map xs.get)[(old.symm i).val] = xs.get i
    rw [List.getElem_map]
    exact congrArg xs.get (hget i)
  · intro i j hij hrev
    have hpair := List.pairwise_iff_get.1 h.reverses _ _ ((hplace j i).1 hrev)
    rw [hget, hget] at hpair
    rcases hpair with hji | hout
    · exact absurd hij (lt_asymm hji)
    · exact hout
  · rw [← h.counts, inversions_eq_card]
    refine Finset.card_equiv ((Equiv.prodComm _ _).trans (old.symm.prodCongr old.symm)) ?_
    rintro ⟨i, j⟩
    simp only [reversedPairs, Finset.mem_filter, Finset.mem_univ, true_and, hplace,
      Equiv.trans_apply, Equiv.prodComm_apply, Prod.swap_prod_mk, Equiv.prodCongr_apply,
      Prod.map_apply, hget, decide_eq_true_eq]
    exact And.comm

end Trail

/-- A sort by exchanges places the elements, with one exchange for each pair that changes sides. -/
theorem exists_placement (asymm : Asymmetric outOfOrder) (xs : List α) :
    ∃ place : Fin xs.length ≃ Fin (exchangeSort outOfOrder asymm xs).1.length,
      Placement outOfOrder xs (exchangeSort outOfOrder asymm xs).1 place ∧
        (reversedPairs place).card = (exchangeSort outOfOrder asymm xs).2 := by
  let asymm' : Asymmetric fun i j => outOfOrder (xs.get i) (xs.get j) := fun i j => asymm _ _
  have htrail := exchangeSort_invariant asymm' (Trail outOfOrder xs)
    (fun _ _ _ h hstep => h.step asymm hstep) (Trail.start xs)
  have hmap := exchangeSort_map xs.get asymm asymm' (List.finRange xs.length)
  rw [List.map_get_finRange] at hmap
  obtain ⟨place, hplace, hcard⟩ := htrail.exists_placement
  rw [hmap]
  exact ⟨place, hplace, by omega⟩

theorem exchangeSort_snd_le (asymm : Asymmetric outOfOrder) (xs : List α) :
    (exchangeSort outOfOrder asymm xs).2 ≤ xs.length * (xs.length - 1) / 2 := by
  have hkeep := exchangeSort_invariant asymm
    (fun ys made => inversions outOfOrder ys + made = inversions outOfOrder xs)
    (fun ys zs made hsum hzs => by
      have hless := inversions_of_exchangeFirst asymm hzs
      omega)
    (n := 0) rfl
  have hle := inversions_le outOfOrder xs
  omega

namespace Comparison

/-- A sort of rows ends. It rearranges the rows so that no neighbours are left out of order in the
    direction that it applies. There is one way to tell the rows apart such that only rows out of
    order change sides, and the sort makes one exchange for each such pair. -/
theorem sort_exchanges_reversed_pairs (comparison : Comparison) (requested : Direction)
    (rows : List Row) :
    let sorted := comparison.sort requested rows
    HaltsIn comparison.turn ⟨rows, requested, 0, false⟩ sorted.loop ∧
      sorted.rows.Perm rows ∧
      (∀ (i : Nat) (hi : i + 1 < sorted.rows.length),
        comparison.outOfOrder sorted.applied sorted.rows[i] sorted.rows[i + 1] = false) ∧
      (∃ place : Fin rows.length ≃ Fin sorted.rows.length,
        Placement (comparison.outOfOrder sorted.applied) rows sorted.rows place ∧
          sorted.swaps = (reversedPairs place).card ∧
          ∀ place', Placement (comparison.outOfOrder sorted.applied) rows sorted.rows place' →
            place' = place) ∧
      sorted.swaps ≤ rows.length * (rows.length - 1) / 2 := by
  intro sorted
  have hrows : sorted.rows = (comparison.sortIn sorted.applied rows).1 :=
    comparison.sort_rows requested rows
  have hswaps : sorted.swaps = (comparison.sortIn sorted.applied rows).2 :=
    comparison.sort_swaps requested rows
  refine ⟨comparison.sort_haltsIn requested rows, comparison.sort_perm requested rows, ?_, ?_, ?_⟩
  · have hsettled : Settled (comparison.outOfOrder sorted.applied) sorted.rows := by
      rw [hrows]
      exact exchangeSort_settled ..
    exact List.isChain_iff_getElem.1 hsettled
  · have hplace := exists_placement (comparison.outOfOrder_asymm sorted.applied) rows
    rw [← sortIn, ← hrows, ← hswaps] at hplace
    obtain ⟨place, hplace, hcard⟩ := hplace
    exact ⟨place, hplace, hcard.symm, fun place' hplace' =>
      hplace'.unique hplace (comparison.outOfOrder_asymm sorted.applied)⟩
  · rw [hswaps]
    exact exchangeSort_snd_le ..

end Comparison

end Scoreboard
