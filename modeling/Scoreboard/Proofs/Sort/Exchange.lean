import Mathlib.Data.List.Chain
import Scoreboard.Sort.Exchange

/-!
# One exchange, and all of them

What a single exchange does to a list, and what therefore holds at the end of a sort by exchanges.

## Main statements

- `exchangeFirst_eq_some_iff` — an exchange takes place behind a settled front
- `exchangeSort_invariant` — whatever every exchange keeps, the whole sort keeps
- `exchangeSort_settled` — a sort leaves no neighbours out of order
- `exchangeSort_congr` — two tests that agree on the elements of a list sort it in step

## Design notes

The number of exchanges stands in the invariant of a run as an argument of its own. So a statement
about how often something happens needs no second induction.
-/

namespace Scoreboard

universe u v

variable {α : Type u} {outOfOrder : α → α → Bool}

/-- No two neighbours are out of order. -/
def Settled (outOfOrder : α → α → Bool) (xs : List α) : Prop :=
  xs.IsChain fun a b => outOfOrder a b = false

theorem exchangeFirst_eq_none_iff {xs : List α} :
    exchangeFirst outOfOrder xs = none ↔ Settled outOfOrder xs := by
  induction xs with
  | nil => simp [exchangeFirst, Settled]
  | cons a rest ih =>
    cases rest with
    | nil => simp [exchangeFirst, Settled]
    | cons b rest =>
      unfold exchangeFirst
      cases hab : outOfOrder a b with
      | true => simp [Settled, hab]
      | false =>
        simp only [Bool.false_eq_true, if_false, Option.map_eq_none_iff, ih]
        simp [Settled, hab]

/-- Behind a settled front, the first neighbours out of order are the ones that are exchanged. -/
theorem exchangeFirst_append {front : List α} {a b : α}
    (hfront : Settled outOfOrder (front ++ [a])) (back : List α) (hab : outOfOrder a b = true) :
    exchangeFirst outOfOrder (front ++ a :: b :: back) = some (front ++ b :: a :: back) := by
  induction front with
  | nil => simp [exchangeFirst, hab]
  | cons c front ih =>
    have hrest : Settled outOfOrder (front ++ [a]) := List.IsChain.tail hfront
    cases front with
    | nil =>
      have hca : outOfOrder c a = false := by simpa [Settled] using hfront
      simp [exchangeFirst, hca, hab]
    | cons d front =>
      have hcd : outOfOrder c d = false := (List.isChain_cons_cons.1 hfront).1
      have hinner := ih hrest
      simp only [List.cons_append] at hinner ⊢
      rw [exchangeFirst, hcd, hinner]
      rfl

/-- An exchange takes place behind a settled front, between two neighbours out of order. -/
theorem exchangeFirst_eq_some_iff {xs ys : List α} :
    exchangeFirst outOfOrder xs = some ys ↔
      ∃ front a b back, xs = front ++ a :: b :: back ∧ ys = front ++ b :: a :: back ∧
        outOfOrder a b = true ∧ Settled outOfOrder (front ++ [a]) := by
  constructor
  · intro h
    induction xs generalizing ys with
    | nil => simp [exchangeFirst] at h
    | cons a rest ih =>
      cases rest with
      | nil => simp [exchangeFirst] at h
      | cons b rest =>
        unfold exchangeFirst at h
        split at h
        · next hab =>
          cases h
          exact ⟨[], a, b, rest, rfl, rfl, hab, List.IsChain.singleton a⟩
        · next hab =>
          obtain ⟨zs, hzs, rfl⟩ := Option.map_eq_some_iff.1 h
          obtain ⟨front, c, d, back, hxs, rfl, hcd, hfront⟩ := ih hzs
          refine ⟨a :: front, c, d, back, by rw [hxs]; rfl, rfl, hcd, ?_⟩
          -- The new first neighbours are those that the scan has just passed over.
          have hfirst : ∀ e ∈ (front ++ [c]).head?, outOfOrder a e = false := by
            intro e he
            have hb : (front ++ [c]).head? = some b := by
              cases front with
              | nil => simpa using (List.cons.inj hxs).1.symm
              | cons e front => simpa using (List.cons.inj hxs).1.symm
            rw [hb] at he
            cases he
            simpa using hab
          exact List.IsChain.cons hfront hfirst
  · rintro ⟨front, a, b, back, rfl, rfl, hab, hfront⟩
    exact exchangeFirst_append hfront back hab

/-- Elements that stand for others are exchanged as those would be. -/
theorem exchangeFirst_map {β : Type v} (f : β → α) (xs : List β) :
    exchangeFirst outOfOrder (xs.map f) =
      (exchangeFirst (fun a b => outOfOrder (f a) (f b)) xs).map (List.map f) := by
  induction xs with
  | nil => rfl
  | cons a rest ih =>
    cases rest with
    | nil => rfl
    | cons b rest =>
      simp only [List.map_cons] at ih ⊢
      unfold exchangeFirst
      split
      · rfl
      · rw [ih, Option.map_map, Option.map_map]
        rfl

/-- An exchange depends only on how the elements of the list stand to each other. -/
theorem exchangeFirst_congr {outOfOrder' : α → α → Bool} {xs : List α}
    (h : ∀ a ∈ xs, ∀ b ∈ xs, outOfOrder a b = outOfOrder' a b) :
    exchangeFirst outOfOrder xs = exchangeFirst outOfOrder' xs := by
  induction xs with
  | nil => rfl
  | cons a rest ih =>
    cases rest with
    | nil => rfl
    | cons b rest =>
      have hrest := ih fun c hc d hd =>
        h c (List.mem_cons_of_mem a hc) d (List.mem_cons_of_mem a hd)
      unfold exchangeFirst
      rw [h a List.mem_cons_self b (List.mem_cons_of_mem a List.mem_cons_self), hrest]

section

variable {asymm : Asymmetric outOfOrder}

theorem exchangeSort_of_settled {xs : List α} (h : Settled outOfOrder xs) :
    exchangeSort outOfOrder asymm xs = (xs, 0) := by
  rw [exchangeSort]
  split
  · rfl
  · next ys hys => rw [exchangeFirst_eq_none_iff.2 h] at hys; cases hys

/-- A sort goes on from its first exchange, which it counts. -/
theorem exchangeSort_of_exchangeFirst {xs ys : List α}
    (h : exchangeFirst outOfOrder xs = some ys) :
    exchangeSort outOfOrder asymm xs =
      ((exchangeSort outOfOrder asymm ys).1, (exchangeSort outOfOrder asymm ys).2 + 1) := by
  rw [exchangeSort]
  split
  · next hnone => rw [h] at hnone; cases hnone
  · next zs hzs =>
    rw [h] at hzs
    cases hzs
    rfl

/-- Sorts are understood exchange by exchange, from the last one back. -/
theorem exchangeSort_induction (asymm : Asymmetric outOfOrder) {motive : List α → Prop}
    (settled : ∀ xs, Settled outOfOrder xs → motive xs)
    (exchange : ∀ xs ys, exchangeFirst outOfOrder xs = some ys → motive ys → motive xs)
    (xs : List α) : motive xs := by
  induction hn : inversions outOfOrder xs using Nat.strongRecOn generalizing xs with
  | ind n ih =>
    cases hxs : exchangeFirst outOfOrder xs with
    | none => exact settled xs (exchangeFirst_eq_none_iff.1 hxs)
    | some ys =>
      have hless := inversions_of_exchangeFirst asymm hxs
      exact exchange xs ys hxs (ih _ (by omega) ys rfl)

/-- Whatever every exchange keeps, the whole sort keeps. -/
theorem exchangeSort_invariant (asymm : Asymmetric outOfOrder) (inv : List α → Nat → Prop)
    (step : ∀ xs ys n, inv xs n → exchangeFirst outOfOrder xs = some ys → inv ys (n + 1))
    {xs : List α} {n : Nat} (h : inv xs n) :
    inv (exchangeSort outOfOrder asymm xs).1 (n + (exchangeSort outOfOrder asymm xs).2) := by
  induction xs using exchangeSort_induction asymm generalizing n with
  | settled xs hxs => rwa [exchangeSort_of_settled hxs]
  | exchange xs ys hys ih =>
    rw [exchangeSort_of_exchangeFirst hys]
    have hlast := ih (step xs ys n h hys)
    rwa [Nat.add_assoc, Nat.add_comm 1] at hlast

/-- A sort leaves no neighbours out of order. -/
theorem exchangeSort_settled (asymm : Asymmetric outOfOrder) (xs : List α) :
    Settled outOfOrder (exchangeSort outOfOrder asymm xs).1 := by
  induction xs using exchangeSort_induction asymm with
  | settled xs hxs => rwa [exchangeSort_of_settled hxs]
  | exchange xs ys hys ih => rwa [exchangeSort_of_exchangeFirst hys]

theorem exchangeSort_perm (asymm : Asymmetric outOfOrder) (xs : List α) :
    (exchangeSort outOfOrder asymm xs).1.Perm xs :=
  exchangeSort_invariant asymm (fun ys _ => ys.Perm xs)
    (fun _ _ _ hperm hys => (exchangeFirst_perm hys).trans hperm) (n := 0) (List.Perm.refl xs)

/-- A sort makes no exchange only in a settled list. -/
theorem exchangeSort_snd_eq_zero_iff {xs : List α} :
    (exchangeSort outOfOrder asymm xs).2 = 0 ↔ Settled outOfOrder xs := by
  constructor
  · intro h
    cases hxs : exchangeFirst outOfOrder xs with
    | none => exact exchangeFirst_eq_none_iff.1 hxs
    | some ys => rw [exchangeSort_of_exchangeFirst hxs] at h; cases h
  · intro h
    rw [exchangeSort_of_settled h]

theorem exchangeSort_map {β : Type v} (f : β → α) (asymm : Asymmetric outOfOrder)
    (asymm' : Asymmetric fun a b => outOfOrder (f a) (f b)) (xs : List β) :
    exchangeSort outOfOrder asymm (xs.map f) =
      ((exchangeSort (fun a b => outOfOrder (f a) (f b)) asymm' xs).1.map f,
        (exchangeSort (fun a b => outOfOrder (f a) (f b)) asymm' xs).2) := by
  induction xs using exchangeSort_induction asymm' with
  | settled xs hxs =>
    have hmap : Settled outOfOrder (xs.map f) := by
      rw [← exchangeFirst_eq_none_iff, exchangeFirst_map, exchangeFirst_eq_none_iff.2 hxs]
      rfl
    rw [exchangeSort_of_settled hxs, exchangeSort_of_settled hmap]
  | exchange xs ys hys ih =>
    have hmap : exchangeFirst outOfOrder (xs.map f) = some (ys.map f) := by
      rw [exchangeFirst_map, hys]
      rfl
    rw [exchangeSort_of_exchangeFirst hys, exchangeSort_of_exchangeFirst hmap, ih]

/-- So does the whole sort, exchange by exchange. -/
theorem exchangeSort_congr {outOfOrder' : α → α → Bool} (asymm : Asymmetric outOfOrder)
    (asymm' : Asymmetric outOfOrder') {xs : List α}
    (h : ∀ a ∈ xs, ∀ b ∈ xs, outOfOrder a b = outOfOrder' a b) :
    exchangeSort outOfOrder asymm xs = exchangeSort outOfOrder' asymm' xs := by
  induction xs using exchangeSort_induction asymm with
  | settled xs hxs =>
    have hnone := exchangeFirst_eq_none_iff.2 hxs
    rw [exchangeFirst_congr h, exchangeFirst_eq_none_iff] at hnone
    rw [exchangeSort_of_settled hxs, exchangeSort_of_settled hnone]
  | exchange xs ys hys ih =>
    have hys' := hys
    rw [exchangeFirst_congr h] at hys'
    have hperm := exchangeFirst_perm hys
    rw [exchangeSort_of_exchangeFirst hys, exchangeSort_of_exchangeFirst hys',
      ih fun a ha b hb => h a (hperm.mem_iff.1 ha) b (hperm.mem_iff.1 hb)]

end

end Scoreboard
