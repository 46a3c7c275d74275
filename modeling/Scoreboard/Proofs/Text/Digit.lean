import Mathlib.Data.List.Basic
import Mathlib.Data.List.TakeWhile
import Mathlib.Data.Nat.Digits.Defs
import Scoreboard.Text.Digit

/-!
# Runs of digits

A run of digits is always taken whole, so where it is found is decided by what comes after it.

## Main definitions

- `Text.IsRun` — a run of digits of any script
- `Text.Spells` — the number that ASCII digits spell, by their places

## Main statements

- `Text.natOfDigits?_eq_some_iff` — digits are read as the number that they spell
- `Text.digits_append` — digits at the front of a text are the text's own run, or cut it short
-/

namespace Scoreboard.Text

/-- A run of decimal digits, of any script. -/
def IsRun (digits : List Char) : Prop :=
  digits ≠ [] ∧ ∀ c ∈ digits, isDecimalDigit c = true

/-- ASCII digits and the number that they spell, where the last digit counts ones. -/
def Spells (digits : List Char) (n : Nat) : Prop :=
  (∀ c ∈ digits, c.isDigit = true) ∧
    n = Nat.ofDigits 10 (digits.reverse.map fun c => c.toNat - '0'.toNat)

theorem natOfDigitsFrom?_eq_some_iff {digits : List Char} {n m : Nat} :
    natOfDigitsFrom? n digits = some m ↔ (∀ c ∈ digits, c.isDigit = true) ∧
      m = Nat.ofDigits 10 (digits.reverse.map fun c => c.toNat - '0'.toNat) +
        10 ^ digits.length * n := by
  induction digits generalizing n with
  | nil =>
    show some n = some m ↔ _
    simp [@eq_comm _ n]
  | cons c cs ih =>
    by_cases hc : c.isDigit = true
    · have hstep : natOfDigitsFrom? n (c :: cs) =
          natOfDigitsFrom? (10 * n + (c.toNat - '0'.toNat)) cs := by
        simp [natOfDigitsFrom?, digitValue?, hc]
      rw [hstep, ih, List.forall_mem_cons, List.reverse_cons, List.map_append, List.map_singleton,
        Nat.ofDigits_append, Nat.ofDigits_singleton, List.length_map, List.length_reverse,
        List.length_cons, pow_succ]
      simp only [hc, true_and]
      refine and_congr_right fun _ => ?_
      rw [Nat.mul_add, Nat.add_assoc, Nat.add_comm (10 ^ cs.length * (10 * n)), Nat.mul_assoc]
    · have hnone : natOfDigitsFrom? n (c :: cs) = none := by
        simp [natOfDigitsFrom?, digitValue?, hc]
      simp [hnone, hc]

theorem natOfDigits?_eq_some_iff {digits : List Char} {n : Nat} :
    natOfDigits? digits = some n ↔ Spells digits n := by
  unfold natOfDigits? Spells
  rw [natOfDigitsFrom?_eq_some_iff, Nat.mul_zero, Nat.add_zero]

theorem le_of_natOfDigitsFrom? {cs : List Char} {n m : Nat} (h : natOfDigitsFrom? n cs = some m) :
    n ≤ m := by
  obtain ⟨_, rfl⟩ := natOfDigitsFrom?_eq_some_iff.1 h
  have hpos : 0 < 10 ^ cs.length := Nat.pow_pos (by decide)
  have hle := Nat.le_mul_of_pos_left n hpos
  omega

/-- Digits at the front of a text are its whole run of digits, unless a digit comes after them. -/
theorem digits_append {digits : List Char} (hdigits : ∀ c ∈ digits, isDecimalDigit c = true)
    (rest : List Char) :
    (digits ++ rest).takeWhile isDecimalDigit = digits ∧
        (digits ++ rest).dropWhile isDecimalDigit = rest ∨
      digits.length < ((digits ++ rest).takeWhile isDecimalDigit).length ∧
        ∃ c cs, rest = c :: cs ∧ isDecimalDigit c = true := by
  rw [List.takeWhile_append_of_pos hdigits, List.dropWhile_append_of_pos hdigits]
  cases rest with
  | nil => exact .inl ⟨List.append_nil digits, rfl⟩
  | cons c cs =>
    by_cases hc : isDecimalDigit c = true
    · right
      rw [List.takeWhile_cons_of_pos hc, List.length_append, List.length_cons]
      exact ⟨by omega, c, cs, rfl, hc⟩
    · left
      rw [List.takeWhile_cons_of_neg hc, List.dropWhile_cons_of_neg hc]
      exact ⟨List.append_nil digits, rfl⟩

theorem IsRun.takeWhile_ne_nil {run : List Char} (h : IsRun run) (rest : List Char) :
    (run ++ rest).takeWhile isDecimalDigit ≠ [] := by
  rw [List.takeWhile_append_of_pos h.2]
  intro hnil
  exact h.1 (List.append_eq_nil_iff.1 hnil).1

section

variable {run rest : List Char} (hrun : IsRun run) (hrest : ∀ c ∈ rest.head?, ¬isDecimalDigit c)

include hrun hrest

/-- A run is taken whole where no digit comes after it. -/
theorem IsRun.takeWhile_append : (run ++ rest).takeWhile isDecimalDigit = run := by
  rw [List.takeWhile_append_of_pos hrun.2]
  cases rest with
  | nil => exact List.append_nil run
  | cons c cs => rw [List.takeWhile_cons_of_neg (hrest c rfl), List.append_nil]

theorem IsRun.dropWhile_append : (run ++ rest).dropWhile isDecimalDigit = rest := by
  rw [List.dropWhile_append_of_pos hrun.2]
  cases rest with
  | nil => rfl
  | cons c cs => exact List.dropWhile_cons_of_neg (hrest c rfl)

end

end Scoreboard.Text
