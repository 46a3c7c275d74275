import Scoreboard.Proofs.Cell.Kind
import Scoreboard.Proofs.Sort.Global

/-!
# Stable sorts

A sort by exchanges never exchanges elements that tie. So where the test for being out of order
comes from an order of all the elements, the sort is the stable sort in that order.

## Main definitions

- `StableSort` — a list is a stable sort of another one
- `Comparison.value?`, `Comparison.kind?` — what the compared cell of a row stands for
- `Comparison.inOrder` — two rows stand in the order of their values

## Main statements

- `StableSort.eq_mergeSort` — there is one stable sort, the one that merging finds
- `exchangeSort_stable` — a sort by exchanges is stable
- `Comparison.sortIn_stable` — rows of one kind are put in the order of their values
-/

namespace Scoreboard

universe u

section

variable {α : Type u} {le le' : α → α → Bool} {xs ys zs : List α}

/-- Neither of two elements has to stand before the other. -/
def ties (le : α → α → Bool) (a b : α) : Bool :=
  le a b && le b a

/-- A list is a stable sort of another one: it holds the same elements in order, and those that tie
    stand to each other as they did. -/
structure StableSort (le : α → α → Bool) (xs ys : List α) : Prop where
  perm : ys.Perm xs
  sorted : ys.Pairwise fun a b => le a b = true
  stable : ∀ a, ys.filter (ties le a) = xs.filter (ties le a)

/-- Of two sorts in a row the last one decides, as long as the same elements tie in both. -/
theorem StableSort.trans (h : StableSort le xs ys) (h' : StableSort le' ys zs)
    (hties : ∀ a b, ties le a b = ties le' a b) : StableSort le' xs zs where
  perm := h'.perm.trans h.perm
  sorted := h'.sorted
  stable a := by
    have hsame : ties le a = ties le' a := funext (hties a)
    rw [h'.stable a, ← hsame, h.stable a]

section

variable (trans : ∀ a b c, le a b = true → le b c = true → le a c = true)
  (total : ∀ a b, (le a b || le b a) = true)

include total in
theorem ties_self (a : α) : ties le a a = true := by
  have h := total a a
  rw [Bool.or_self] at h
  unfold ties
  rw [h]
  rfl

include trans in
theorem le_of_ties {a b c : α} (hb : ties le a b = true) (hc : ties le a c = true) :
    le b c = true := by
  unfold ties at hb hc
  rw [Bool.and_eq_true] at hb hc
  exact trans b a c hb.2 hc.1

include total in
/-- Sorted lists of the same elements in which those that tie stand alike are equal. -/
theorem eq_of_stable (hperm : ys.Perm zs) (hys : ys.Pairwise fun a b => le a b = true)
    (hzs : zs.Pairwise fun a b => le a b = true)
    (hstable : ∀ a, ys.filter (ties le a) = zs.filter (ties le a)) : ys = zs := by
  induction ys generalizing zs with
  | nil => exact hperm.nil_eq
  | cons y ys ih =>
    cases zs with
    | nil => exact absurd hperm.eq_nil (List.cons_ne_nil y ys)
    | cons z zs =>
      have hself (a : α) : le a a = true := by
        have htie := ties_self total a
        unfold ties at htie
        rwa [Bool.and_self] at htie
      -- Each of the two heads stands in the other list, so neither is after the other.
      have hyz : le y z = true := by
        rcases List.mem_cons.1 (hperm.mem_iff.2 List.mem_cons_self) with rfl | hz
        · exact hself z
        · exact List.rel_of_pairwise_cons hys hz
      have hzy : le z y = true := by
        rcases List.mem_cons.1 (hperm.mem_iff.1 List.mem_cons_self) with rfl | hy
        · exact hself y
        · exact List.rel_of_pairwise_cons hzs hy
      have hfirst := hstable y
      have htie : ties le y z = true := by
        unfold ties
        rw [hyz, hzy]
        rfl
      rw [List.filter_cons_of_pos (ties_self total y), List.filter_cons_of_pos htie] at hfirst
      obtain rfl := (List.cons.inj hfirst).1
      have hrest : ∀ a, ys.filter (ties le a) = zs.filter (ties le a) := by
        intro a
        have ha := hstable a
        by_cases hy : ties le a y = true
        · rw [List.filter_cons_of_pos hy, List.filter_cons_of_pos hy] at ha
          exact (List.cons.inj ha).2
        · rwa [List.filter_cons_of_neg hy, List.filter_cons_of_neg hy] at ha
      rw [ih hperm.cons_inv hys.tail hzs.tail hrest]

include trans total

theorem stableSort_mergeSort (xs : List α) : StableSort le xs (xs.mergeSort le) where
  perm := List.mergeSort_perm xs le
  sorted := List.pairwise_mergeSort trans total xs
  stable a := by
    -- Elements that tie are sorted as they stand, so merging keeps them together.
    have hsorted : (xs.filter (ties le a)).Pairwise fun b c => le b c = true := by
      rw [List.pairwise_filter]
      exact List.pairwise_of_forall fun b c hb hc => le_of_ties trans hb hc
    have hsub : (xs.filter (ties le a)).Sublist (xs.mergeSort le) :=
      List.sublist_mergeSort trans total hsorted List.filter_sublist
    have hfilter := hsub.filter (ties le a)
    rw [List.filter_filter] at hfilter
    simp only [Bool.and_self] at hfilter
    have hlength := ((List.mergeSort_perm xs le).filter (ties le a)).length_eq
    exact (hfilter.eq_of_length hlength.symm).symm

/-- There is one stable sort of a list, the one that merging finds. -/
theorem StableSort.eq_mergeSort (h : StableSort le xs ys) : ys = xs.mergeSort le := by
  have hmerge := stableSort_mergeSort trans total xs
  refine eq_of_stable total (h.perm.trans hmerge.perm.symm) h.sorted hmerge.sorted ?_
  intro a
  rw [h.stable a, hmerge.stable a]

end

variable {outOfOrder : α → α → Bool}

/-- Elements of which no two are out of order stand to each other as before a sort. -/
theorem filter_exchangeSort (asymm : Asymmetric outOfOrder) {test : α → Bool}
    (h : ∀ a ∈ xs, ∀ b ∈ xs, outOfOrder a b = true → test a = true → test b = false) :
    (exchangeSort outOfOrder asymm xs).1.filter test = xs.filter test := by
  refine (exchangeSort_invariant asymm
    (fun ys _ => ys.Perm xs ∧ ys.filter test = xs.filter test) ?_ (n := 0)
    ⟨List.Perm.refl xs, rfl⟩).2
  rintro ys zs n ⟨hperm, hfilter⟩ hzs
  refine ⟨(exchangeFirst_perm hzs).trans hperm, ?_⟩
  obtain ⟨front, a, b, back, rfl, rfl, hab, -⟩ := exchangeFirst_eq_some_iff.1 hzs
  have ha : a ∈ xs := hperm.mem_iff.1 (by simp)
  have hb : b ∈ xs := hperm.mem_iff.1 (by simp)
  rw [← hfilter, List.filter_append, List.filter_append]
  congr 1
  by_cases hta : test a = true
  · have htb := h a ha b hb hab hta
    rw [List.filter_cons_of_neg (by simp [htb]), List.filter_cons_of_pos hta,
      List.filter_cons_of_pos hta, List.filter_cons_of_neg (by simp [htb])]
  · by_cases htb : test b = true
    · rw [List.filter_cons_of_pos htb, List.filter_cons_of_neg hta,
        List.filter_cons_of_neg hta, List.filter_cons_of_pos htb]
    · rw [List.filter_cons_of_neg htb, List.filter_cons_of_neg hta,
        List.filter_cons_of_neg hta, List.filter_cons_of_neg htb]

/-- A sort by exchanges is a stable sort in the order that its test comes from. -/
theorem exchangeSort_stable (trans : ∀ a b c, le a b = true → le b c = true → le a c = true)
    (asymm : Asymmetric outOfOrder) (h : ∀ a ∈ xs, ∀ b ∈ xs, outOfOrder a b = !le a b) :
    StableSort le xs (exchangeSort outOfOrder asymm xs).1 := by
  have hperm : (exchangeSort outOfOrder asymm xs).1.Perm xs := exchangeSort_perm asymm xs
  have hle {a b : α} (ha : a ∈ xs) (hb : b ∈ xs) : outOfOrder a b = false ↔ le a b = true := by
    rw [h a ha b hb]
    simp
  refine ⟨hperm, ?_, ?_⟩
  · have hpair : (exchangeSort outOfOrder asymm xs).1.Pairwise fun a b =>
        outOfOrder a b = false := by
      refine List.pairwise_of_isChain ?_ (exchangeSort_settled asymm xs)
      intro a ha b hb c hc hab hbc
      rw [hperm.mem_iff] at ha hb hc
      rw [hle ha hc]
      exact trans a b c ((hle ha hb).1 hab) ((hle hb hc).1 hbc)
    exact hpair.imp_of_mem fun ha hb hab =>
      (hle (hperm.mem_iff.1 ha) (hperm.mem_iff.1 hb)).1 hab
  · intro c
    refine filter_exchangeSort asymm fun a ha b hb hab hca => ?_
    rw [h a ha b hb, Bool.not_eq_true'] at hab
    by_contra hcb
    rw [le_of_ties trans hca (by simpa using hcb)] at hab
    cases hab

end

namespace Comparison

variable (comparison : Comparison)

/-- The value of the compared cell of a row, if the row has that cell. -/
def value? (row : Row) : Option CellValue :=
  (comparison.text? row).map (CellValue.read comparison.year)

/-- The kind of the compared cell of a row, if the row has that cell. -/
def kind? (row : Row) : Option CellValue.Kind :=
  (comparison.value? row).map CellValue.kind

/-- Two rows stand in the order of their values, read in a direction. -/
def inOrder (direction : Direction) (upper lower : Row) : Bool :=
  !direction.opposes (compare (comparison.value? upper) (comparison.value? lower))

theorem inOrder_ascending (upper lower : Row) : comparison.inOrder .ascending upper lower =
    (compare (comparison.value? upper) (comparison.value? lower)).isLE := by
  unfold inOrder
  cases compare (comparison.value? upper) (comparison.value? lower) <;> rfl

theorem inOrder_descending (upper lower : Row) :
    comparison.inOrder .descending upper lower = comparison.inOrder .ascending lower upper := by
  unfold inOrder
  rw [Std.OrientedOrd.eq_swap (a := comparison.value? lower)]
  cases compare (comparison.value? upper) (comparison.value? lower) <;> rfl

theorem inOrder_trans (direction : Direction) (a b c : Row)
    (hab : comparison.inOrder direction a b = true)
    (hbc : comparison.inOrder direction b c = true) :
    comparison.inOrder direction a c = true := by
  cases direction with
  | ascending =>
    rw [inOrder_ascending] at hab hbc ⊢
    exact Std.TransOrd.isLE_trans hab hbc
  | descending =>
    rw [inOrder_descending, inOrder_ascending] at hab hbc ⊢
    exact Std.TransOrd.isLE_trans hbc hab

theorem inOrder_total (direction : Direction) (a b : Row) :
    (comparison.inOrder direction a b || comparison.inOrder direction b a) = true := by
  have hascending (a b : Row) :
      (comparison.inOrder .ascending a b || comparison.inOrder .ascending b a) = true := by
    rw [inOrder_ascending, inOrder_ascending,
      Std.OrientedOrd.eq_swap (a := comparison.value? b)]
    cases compare (comparison.value? a) (comparison.value? b) <;> rfl
  cases direction with
  | ascending => exact hascending a b
  | descending =>
    rw [inOrder_descending, inOrder_descending]
    exact hascending b a

/-- The same rows tie in both directions. -/
theorem ties_inOrder (direction direction' : Direction) (a b : Row) :
    ties (comparison.inOrder direction) a b = ties (comparison.inOrder direction') a b := by
  have hdescending : ties (comparison.inOrder .descending) a b =
      ties (comparison.inOrder .ascending) a b := by
    unfold ties
    rw [inOrder_descending, inOrder_descending, Bool.and_comm]
  cases direction <;> cases direction' <;> first | rfl | rw [hdescending]

variable {comparison}

/-- Two rows of one kind are out of order where their values are. -/
theorem outOfOrder_of_kind? {upper lower : Row} {kind : CellValue.Kind}
    (hu : comparison.kind? upper = some kind) (hl : comparison.kind? lower = some kind)
    (direction : Direction) :
    comparison.outOfOrder direction upper lower = !comparison.inOrder direction upper lower := by
  unfold kind? value? at hu hl
  obtain ⟨u, hu, hukind⟩ := Option.map_eq_some_iff.1 hu
  obtain ⟨l, hl, hlkind⟩ := Option.map_eq_some_iff.1 hl
  obtain ⟨s, hs, rfl⟩ := Option.map_eq_some_iff.1 hu
  obtain ⟨t, ht, rfl⟩ := Option.map_eq_some_iff.1 hl
  rw [outOfOrder_of_compare? hs ht (CellValue.compare?_eq_order (hukind.trans hlkind.symm))]
  unfold inOrder value?
  rw [hs, ht, Bool.not_not]
  rfl

/-- Rows of one kind are put in the order of their values, and rows that tie keep their places to
    each other. -/
theorem sortIn_stable {kind : CellValue.Kind} {rows : List Row}
    (h : ∀ row ∈ rows, comparison.kind? row = some kind) (direction : Direction) :
    StableSort (comparison.inOrder direction) rows (comparison.sortIn direction rows).1 :=
  exchangeSort_stable (comparison.inOrder_trans direction) _ fun a ha b hb =>
    outOfOrder_of_kind? (h a ha) (h b hb) direction

section

variable {kind : CellValue.Kind} {rows : List Row}
  (h : ∀ row ∈ rows, comparison.kind? row = some kind)

include h

theorem settled_iff_pairwise (direction : Direction) :
    Settled (comparison.outOfOrder direction) rows ↔
      rows.Pairwise fun upper lower => comparison.inOrder direction upper lower := by
  constructor
  · intro hsettled
    have hsorted := (sortIn_stable h direction).sorted
    rwa [sortIn, exchangeSort_of_settled hsettled] at hsorted
  · intro hpair
    refine List.Pairwise.isChain (hpair.imp_of_mem fun ha hb hab => ?_)
    rw [outOfOrder_of_kind? (h _ ha) (h _ hb), hab]
    rfl

theorem sort_stable (requested : Direction) :
    StableSort (comparison.inOrder (comparison.sort requested rows).applied) rows
      (comparison.sort requested rows).rows := by
  rw [sort_rows]
  exact sortIn_stable h _

theorem applied_of_pairwise
    (hpair : rows.Pairwise fun upper lower => comparison.inOrder .ascending upper lower) :
    (comparison.sort .ascending rows).applied = .descending := by
  rw [comparison.sort_of_settled ((settled_iff_pairwise h .ascending).2 hpair)]

theorem applied_of_not_pairwise {requested : Direction} (hpair : requested = .ascending →
      ¬ rows.Pairwise fun upper lower => comparison.inOrder .ascending upper lower) :
    (comparison.sort requested rows).applied = requested := by
  rw [comparison.sort_of_not_settled]
  rw [settled_iff_pairwise h]
  exact hpair

end

end Comparison

end Scoreboard
