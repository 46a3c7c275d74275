import Scoreboard.Proofs.Cell.Order
import Scoreboard.Proofs.List
import Scoreboard.Proofs.Sort.Insertion

/-!
# From neighbours to all rows

A sort leaves no neighbours out of order. Whether it leaves no two rows at all out of order depends
on the texts of the column: it does as long as no plain text stands between two numbers that are the
other way round by value.

## Main definitions

- `Comparison.Ordered` — no two rows are out of order
- `Comparison.Unstamped` — all rows have the compared cell, and no moment there
- `Comparison.Wedged` — plain text of the rows stands between two numbers of theirs

## Main statements

- `Comparison.ordered_sort` — where every such text stands between numbers in order, all rows are
- `Comparison.exists_not_ordered_sort` — where some does not, not all rows are, from some start
- `Comparison.not_ordered_of_gt` — where some numbers are the other way round, all rows never are
-/

namespace Scoreboard

universe u

section

variable {α : Type u} {outOfOrder : α → α → Bool}

/-- Elements that are out of order all the way round have no order. -/
theorem not_pairwise_of_cycle (asymm : Asymmetric outOfOrder) {xs : List α} {a b c : α}
    (ha : a ∈ xs) (hb : b ∈ xs) (hc : c ∈ xs) (hab : outOfOrder a b = true)
    (hbc : outOfOrder b c = true) (hca : outOfOrder c a = true) :
    ¬ xs.Pairwise fun upper lower => outOfOrder upper lower = false := by
  intro h
  rw [List.pairwise_iff_getElem] at h
  obtain ⟨i, hi, rfl⟩ := List.getElem_of_mem ha
  obtain ⟨j, hj, rfl⟩ := List.getElem_of_mem hb
  obtain ⟨k, hk, rfl⟩ := List.getElem_of_mem hc
  -- Each of the three stands below the one that it is out of order with.
  have habove (m n : Nat) (hm : m < xs.length) (hn : n < xs.length)
      (hmn : outOfOrder xs[m] xs[n] = true) : n < m := by
    rcases Nat.lt_trichotomy m n with hlt | rfl | hgt
    · rw [h m n hm hn hlt] at hmn
      cases hmn
    · rw [asymm _ _ hmn] at hmn
      cases hmn
    · exact hgt
  have hji := habove i j hi hj hab
  have hkj := habove j k hj hk hbc
  have hik := habove k i hk hi hca
  omega

/-- Where being out of order is not transitive, some arrangement of the elements does not come out
    with all of them in order. -/
theorem exists_perm_not_pairwise [DecidableEq α] (asymm : Asymmetric outOfOrder) {xs : List α}
    {a b c : α} (ha : a ∈ xs) (hb : b ∈ xs) (hc : c ∈ xs) (hab : outOfOrder a b = true)
    (hbc : outOfOrder b c = true) (hac : outOfOrder a c = false) :
    ∃ ys, ys.Perm xs ∧ ¬ Settled outOfOrder ys ∧
      ¬ (exchangeSort outOfOrder asymm ys).1.Pairwise fun upper lower =>
        outOfOrder upper lower = false := by
  have hne : b ≠ a ∧ c ≠ a ∧ c ≠ b := by
    refine ⟨?_, ?_, ?_⟩
    · rintro rfl
      rw [asymm _ _ hab] at hab
      cases hab
    · rintro rfl
      rw [asymm _ _ hab] at hbc
      cases hbc
    · rintro rfl
      rw [hab] at hac
      cases hac
  have hb' : b ∈ xs.erase a := (List.mem_erase_of_ne hne.1).2 hb
  have hc' : c ∈ (xs.erase a).erase b :=
    (List.mem_erase_of_ne hne.2.2).2 ((List.mem_erase_of_ne hne.2.1).2 hc)
  let rest := ((xs.erase a).erase b).erase c
  have hperm : (a :: b :: c :: rest).Perm xs :=
    ((List.perm_cons_erase ha).trans
      (((List.perm_cons_erase hb').trans ((List.perm_cons_erase hc').cons b)).cons a)).symm
  refine ⟨a :: b :: c :: rest, hperm, ?_, ?_⟩
  · intro hsettled
    rw [(List.isChain_cons_cons.1 hsettled).1] at hab
    cases hab
  · rw [exchangeSort_eq_insertionPass]
    intro hpair
    -- The first three come to stand as b, a, c, and the others only move past them.
    have hfront : moveUpAll outOfOrder [] (a :: b :: c :: rest) =
        ((moveUpAll outOfOrder [c, a, b] rest).1, 1 + (moveUpAll outOfOrder [c, a, b] rest).2) := by
      simp [moveUpAll, moveUp, hab, hac]
    have hkept : [b, a, c].Sublist (insertionPass outOfOrder (a :: b :: c :: rest)).1 := by
      have hsub := (sublist_moveUpAll outOfOrder [c, a, b] rest).reverse
      rw [insertionPass, hfront]
      exact hsub
    have hkeep := hpair.sublist hkept
    have hbcf := List.rel_of_pairwise_cons hkeep (.tail _ List.mem_cons_self)
    rw [hbc] at hbcf
    cases hbcf

end

namespace Comparison

/-- No two rows are out of order, however far apart they stand. -/
def Ordered (comparison : Comparison) (direction : Direction) (rows : List Row) : Prop :=
  rows.Pairwise fun upper lower => comparison.outOfOrder direction upper lower = false

/-- Every row has the compared cell, and its text is no moment. -/
def Unstamped (comparison : Comparison) (rows : List Row) : Prop :=
  ∀ row ∈ rows, ∃ text, comparison.text? row = some text ∧
    (CellValue.read comparison.year text).isStamp = false

instance (comparison : Comparison) (direction : Direction) (rows : List Row) :
    Decidable (comparison.Ordered direction rows) :=
  inferInstanceAs (Decidable (List.Pairwise _ _))

instance (comparison : Comparison) (rows : List Row) : Decidable (comparison.Unstamped rows) :=
  decidable_of_iff (∀ row ∈ rows, (comparison.text? row).any fun text =>
      !(CellValue.read comparison.year text).isStamp)
    (forall₂_congr fun row _ => by
      rw [Option.any_eq_true]
      exact exists_congr fun text => and_congr_right fun _ => by
        rw [Bool.not_eq_true'])

/-- Plain text of the rows stands, by its key, between the numbers of two others. -/
def Wedged (comparison : Comparison) (rows : List Row) (low high : String) : Prop :=
  low ∈ rows.filterMap comparison.text? ∧ high ∈ rows.filterMap comparison.text? ∧
    ∃ middle ∈ rows.filterMap comparison.text?, CellValue.Between comparison.year low middle high

variable {comparison : Comparison} {rows : List Row}

theorem outOfOrder_of_compare? {upper lower : Row} {u l : String} {o : Ordering}
    (hu : comparison.text? upper = some u) (hl : comparison.text? lower = some l)
    (ho : CellValue.compare? comparison.year u l = some o) (direction : Direction) :
    comparison.outOfOrder direction upper lower = direction.opposes o := by
  simp only [outOfOrder, order?, hu, hl, ho, Option.any_some]

theorem opposes_ascending {o : Ordering} :
    Direction.ascending.opposes o = false ↔ o.isLE = true := by
  cases o <;> decide

/-- The descending direction is the ascending one, read from the last row back. -/
theorem outOfOrder_descending (comparison : Comparison) (upper lower : Row) :
    comparison.outOfOrder .descending upper lower =
      comparison.outOfOrder .ascending lower upper := by
  unfold outOfOrder
  rw [comparison.order?_swap upper lower]
  cases comparison.order? upper lower with
  | none => rfl
  | some o => cases o <;> rfl

section

variable (hplain : comparison.Unstamped rows)
  (hwedged : ∀ low high, comparison.Wedged rows low high →
    CellValue.compare? comparison.year low high = some .lt)

include hplain hwedged

/-- Where plain texts stand between numbers in order only, being in order is transitive. -/
theorem outOfOrder_trans (direction : Direction) {a b c : Row} (ha : a ∈ rows) (hb : b ∈ rows)
    (hc : c ∈ rows) (hab : comparison.outOfOrder direction a b = false)
    (hbc : comparison.outOfOrder direction b c = false) :
    comparison.outOfOrder direction a c = false := by
  have hascending {a b c : Row} (ha : a ∈ rows) (hb : b ∈ rows) (hc : c ∈ rows)
      (hab : comparison.outOfOrder .ascending a b = false)
      (hbc : comparison.outOfOrder .ascending b c = false) :
      comparison.outOfOrder .ascending a c = false := by
    obtain ⟨s, has, hs⟩ := hplain a ha
    obtain ⟨t, hbt, ht⟩ := hplain b hb
    obtain ⟨u, hcu, hu⟩ := hplain c hc
    obtain ⟨o, ho⟩ := CellValue.exists_compare? hs ht
    obtain ⟨p, hp⟩ := CellValue.exists_compare? ht hu
    obtain ⟨q, hq⟩ := CellValue.exists_compare? hs hu
    rw [outOfOrder_of_compare? has hbt ho, opposes_ascending] at hab
    rw [outOfOrder_of_compare? hbt hcu hp, opposes_ascending] at hbc
    rw [outOfOrder_of_compare? has hcu hq, opposes_ascending]
    have hsm : s ∈ rows.filterMap comparison.text? := List.mem_filterMap.2 ⟨a, ha, has⟩
    have htm : t ∈ rows.filterMap comparison.text? := List.mem_filterMap.2 ⟨b, hb, hbt⟩
    have hum : u ∈ rows.filterMap comparison.text? := List.mem_filterMap.2 ⟨c, hc, hcu⟩
    exact CellValue.compare?_isLE_trans hs ht hu ho hp hq hab hbc
      (fun hbetween => hwedged s u ⟨hsm, hum, t, htm, hbetween⟩)
      (fun hbetween => hwedged t s ⟨htm, hsm, u, hum, hbetween⟩)
      (fun hbetween => hwedged u t ⟨hum, htm, s, hsm, hbetween⟩)
  cases direction with
  | ascending => exact hascending ha hb hc hab hbc
  | descending =>
    rw [outOfOrder_descending] at hab hbc ⊢
    exact hascending hc hb ha hbc hab

/-- Where plain texts stand between numbers in order only, a sort leaves no two rows out of
    order. -/
theorem ordered_sort (requested : Direction) :
    comparison.Ordered (comparison.sort requested rows).applied
      (comparison.sort requested rows).rows := by
  have hperm := comparison.sort_perm requested rows
  refine List.pairwise_of_isChain ?_ (comparison.settled_sort requested rows)
  intro a ha b hb c hc hab hbc
  exact outOfOrder_trans hplain hwedged _ (hperm.mem_iff.1 ha) (hperm.mem_iff.1 hb)
    (hperm.mem_iff.1 hc) hab hbc

end

/-- Plain text between two numbers that are not in order gives three rows that are out of order
    one after the other, but not the first with the last. -/
theorem Wedged.exists_steps {low high : String} (h : comparison.Wedged rows low high)
    (hne : CellValue.compare? comparison.year low high ≠ some .lt) (direction : Direction) :
    ∃ a ∈ rows, ∃ b ∈ rows, ∃ c ∈ rows, comparison.outOfOrder direction a b = true ∧
      comparison.outOfOrder direction b c = true ∧ comparison.outOfOrder direction a c = false ∧
      (CellValue.compare? comparison.year low high = some .gt →
        comparison.outOfOrder direction c a = true) := by
  obtain ⟨hlow, hhigh, middle, hmiddle, hbetween⟩ := h
  obtain ⟨l, hl, hlt⟩ := List.mem_filterMap.1 hlow
  obtain ⟨m, hm, hmt⟩ := List.mem_filterMap.1 hmiddle
  obtain ⟨g, hg, hgt⟩ := List.mem_filterMap.1 hhigh
  have hln := CellValue.isStamp_of_isNumber hbetween.low_number
  have hgn := CellValue.isStamp_of_isNumber hbetween.high_number
  have hlm : CellValue.compare? comparison.year low middle = some .lt := by
    rw [CellValue.compare?_text_right hln hbetween.middle_text, hbetween.low_lt]
  have hmg : CellValue.compare? comparison.year middle high = some .lt := by
    rw [CellValue.compare?_text_left hbetween.middle_text hgn, hbetween.lt_high]
  obtain ⟨o, hlg⟩ := CellValue.exists_compare? hln hgn
  rw [hlg] at hne ⊢
  have hml : comparison.outOfOrder .ascending m l = true := by
    rw [outOfOrder_of_compare? hmt hlt (CellValue.compare?_reverse hlm)]
    decide
  have hgm : comparison.outOfOrder .ascending g m = true := by
    rw [outOfOrder_of_compare? hgt hmt (CellValue.compare?_reverse hmg)]
    decide
  have hgl : comparison.outOfOrder .ascending g l = false := by
    rw [outOfOrder_of_compare? hgt hlt (CellValue.compare?_reverse hlg)]
    cases o with
    | lt => exact absurd rfl hne
    | eq => decide
    | gt => decide
  have hlg' : some o = some .gt → comparison.outOfOrder .ascending l g = true := by
    intro ho
    rw [outOfOrder_of_compare? hlt hgt hlg, Option.some_inj.1 ho]
    decide
  cases direction with
  | ascending => exact ⟨g, hg, m, hm, l, hl, hgm, hml, hgl, hlg'⟩
  | descending =>
    simp only [outOfOrder_descending]
    exact ⟨l, hl, m, hm, g, hg, hml, hgm, hgl, hlg'⟩

/-- Where plain text stands between two numbers that are not in order, the rows can be arranged so
    that a sort leaves two of them out of order. -/
theorem exists_not_ordered_sort {low high : String} (h : comparison.Wedged rows low high)
    (hne : CellValue.compare? comparison.year low high ≠ some .lt) (requested : Direction) :
    ∃ rows', rows'.Perm rows ∧
      ¬ comparison.Ordered (comparison.sort requested rows').applied
        (comparison.sort requested rows').rows := by
  obtain ⟨a, ha, b, hb, c, hc, hab, hbc, hac, -⟩ := h.exists_steps hne requested
  obtain ⟨rows', hperm, hsettled, hpair⟩ :=
    exists_perm_not_pairwise (comparison.outOfOrder_asymm requested) ha hb hc hab hbc hac
  refine ⟨rows', hperm, ?_⟩
  rw [comparison.sort_of_not_settled]
  · exact hpair
  · rintro rfl
    exact hsettled

/-- Where plain text stands between two numbers that are the other way round, two rows are out of
    order in whatever way the rows are arranged. -/
theorem not_ordered_of_gt {low high : String} (h : comparison.Wedged rows low high)
    (hgt : CellValue.compare? comparison.year low high = some .gt) (direction : Direction)
    {rows' : List Row} (hperm : rows'.Perm rows) : ¬ comparison.Ordered direction rows' := by
  have hne : CellValue.compare? comparison.year low high ≠ some .lt := by
    rw [hgt]
    decide
  obtain ⟨a, ha, b, hb, c, hc, hab, hbc, -, hca⟩ := h.exists_steps hne direction
  exact not_pairwise_of_cycle (comparison.outOfOrder_asymm direction) (hperm.mem_iff.2 ha)
    (hperm.mem_iff.2 hb) (hperm.mem_iff.2 hc) hab hbc (hca hgt)

end Comparison

end Scoreboard
