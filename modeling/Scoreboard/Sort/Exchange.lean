/-!
# Sorting by exchanges

A list is put in order by exchanging the first neighbours that are out of order, looked for from the
front anew after every exchange, until none are left.

## Main definitions

- `exchangeFirst` — the list with its first neighbours out of order exchanged
- `inversions` — the number of pairs, neighbours or not, that are out of order
- `exchangeSort` — the list with all neighbours in order, and the number of exchanges

## Design notes

Nothing is asked of the test but that it never holds both ways round: it need not be transitive, and
not every pair need be comparable. That much is enough to end, because each exchange mends one pair
and disturbs no other (`inversions_of_exchangeFirst`).
-/

namespace Scoreboard

universe u

variable {α : Type u}

/-- The list with its first neighbours out of order exchanged, if there are any. -/
def exchangeFirst (outOfOrder : α → α → Bool) : List α → Option (List α)
  | [] => none
  | [_] => none
  | a :: b :: rest =>
    if outOfOrder a b then some (b :: a :: rest)
    else (exchangeFirst outOfOrder (b :: rest)).map (a :: ·)

/-- The number of pairs that are out of order. -/
def inversions (outOfOrder : α → α → Bool) : List α → Nat
  | [] => 0
  | a :: rest => rest.countP (outOfOrder a) + inversions outOfOrder rest

/-- The test never holds both ways round. -/
def Asymmetric (outOfOrder : α → α → Bool) : Prop :=
  ∀ a b, outOfOrder a b = true → outOfOrder b a = false

/-- An exchange rearranges the list. -/
theorem exchangeFirst_perm {outOfOrder : α → α → Bool} {xs ys : List α}
    (h : exchangeFirst outOfOrder xs = some ys) : ys.Perm xs := by
  induction xs generalizing ys with
  | nil => simp [exchangeFirst] at h
  | cons a rest ih =>
    cases rest with
    | nil => simp [exchangeFirst] at h
    | cons b rest =>
      unfold exchangeFirst at h
      split at h
      · cases h
        exact List.Perm.swap ..
      · obtain ⟨zs, hzs, rfl⟩ := Option.map_eq_some_iff.1 h
        exact (ih hzs).cons a

/-- An exchange mends one pair and disturbs no other. -/
theorem inversions_of_exchangeFirst {outOfOrder : α → α → Bool} (asymm : Asymmetric outOfOrder)
    {xs ys : List α} (h : exchangeFirst outOfOrder xs = some ys) :
    inversions outOfOrder ys + 1 = inversions outOfOrder xs := by
  induction xs generalizing ys with
  | nil => simp [exchangeFirst] at h
  | cons a rest ih =>
    cases rest with
    | nil => simp [exchangeFirst] at h
    | cons b rest =>
      unfold exchangeFirst at h
      split at h
      · next hab =>
        cases h
        simp only [inversions, List.countP_cons, hab, asymm a b hab]
        simp only [if_true, Bool.false_eq_true, if_false]
        omega
      · obtain ⟨zs, hzs, rfl⟩ := Option.map_eq_some_iff.1 h
        have hcount := (exchangeFirst_perm hzs).countP_eq (outOfOrder a)
        have hrest := ih hzs
        simp only [inversions] at hrest ⊢
        omega

/-- The list with all neighbours in order, and the number of exchanges that it took. -/
def exchangeSort (outOfOrder : α → α → Bool) (asymm : Asymmetric outOfOrder) (xs : List α) :
    List α × Nat :=
  match h : exchangeFirst outOfOrder xs with
  | none => (xs, 0)
  | some ys =>
    have : inversions outOfOrder ys < inversions outOfOrder xs := by
      have := inversions_of_exchangeFirst asymm h
      omega
    let (sorted, exchanges) := exchangeSort outOfOrder asymm ys
    (sorted, exchanges + 1)
termination_by inversions outOfOrder xs

end Scoreboard
