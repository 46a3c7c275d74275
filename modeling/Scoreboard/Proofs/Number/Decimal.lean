import Scoreboard.Number.Decimal
import Scoreboard.Proofs.Number.Rounding

/-!
# Decimal numbers, correctly rounded

A decimal number becomes the nearest number of a binary format, whatever its exponent is. So numbers
keep their order, and those that the format holds stay what they are.

## Main definitions

- `Decimal.magnitude` — the number without its sign
- `Binary.Rounds` — a number of the format is a magnitude with a sign, correctly rounded
- `Finite.value` — the number that a finite number of a format is

## Main statements

- `Decimal.toBinary_eq_iff` — a decimal number becomes the number that it is rounded to
- `Binary.Rounds.steps_le` — rounding keeps the order of numbers of either sign
- `Binary.Rounds.value_eq` — rounding changes nothing that the format holds
-/

namespace Scoreboard

variable {format : BinaryFormat}

/-- The number of a format that a magnitude with a sign is rounded to. It is infinite where the
    nearest magnitude, taken as if there were no largest one, reaches the limit. -/
inductive Binary.Rounds (negative : Bool) (magnitude : ℚ) : Binary format → Prop where
  | finite (units : Nat) (h : format.Nearest (magnitude * 2 ^ format.scale) units)
      (hlimit : units < 2 ^ (format.limit + format.scale)) :
      Rounds negative magnitude (.finite ⟨negative, units⟩)
  | infinite (units : Nat) (h : format.Nearest (magnitude * 2 ^ format.scale) units)
      (hlimit : 2 ^ (format.limit + format.scale) ≤ units) :
      Rounds negative magnitude (.infinite negative)

namespace Decimal

/-- The number without its sign. -/
def magnitude (d : Decimal) : ℚ :=
  d.digits * 10 ^ d.exponent

end Decimal

namespace BinaryFormat

theorem holds_zero : format.Holds 0 :=
  ⟨0, 0, (Nat.zero_mul _).symm, Nat.two_pow_pos _, .inr rfl⟩

theorem holds_two_pow (hprecision : 1 ≤ format.precision) (k : Nat) : format.Holds (2 ^ k) := by
  by_cases hk : format.precision - 1 ≤ k
  · refine ⟨2 ^ (format.precision - 1), k - (format.precision - 1), ?_, ?_, .inl le_rfl⟩
    · rw [← pow_add, Nat.add_sub_cancel' hk]
    · exact Nat.pow_lt_pow_right one_lt_two (by omega)
  · refine ⟨2 ^ k, 0, (Nat.mul_one _).symm, ?_, .inr rfl⟩
    exact Nat.pow_lt_pow_right one_lt_two (by omega)

theorem Nearest.eq_zero (hprecision : 1 ≤ format.precision) {steps : ℚ} {units : Nat}
    (h : format.Nearest steps units) (hsteps : steps ≤ 0) : units = 0 := by
  refine Nat.le_zero.1 (h.mono hprecision (nearest_self holds_zero) ?_)
  exact_mod_cast hsteps

/-- A number of less than half a step is rounded to zero. -/
theorem nearest_zero (hprecision : 2 ≤ format.precision) {steps : ℚ} (hnonneg : 0 ≤ steps)
    (hlt : steps < 1 / 2) : format.Nearest steps 0 := by
  have hinteger : NearestInteger steps 0 := by
    left
    rwa [Nat.cast_zero, sub_zero, abs_of_nonneg hnonneg]
  have hbound : steps < 2 ^ format.precision := by
    have hone : (1 : ℚ) ≤ 2 ^ format.precision := one_le_pow₀ one_le_two
    linarith
  have hnearest := nearest_of_nearestInteger (d := 0) hprecision hinteger hbound (.inr rfl)
  rwa [pow_zero, mul_one, Nat.zero_mul] at hnearest

theorem exists_nearest (hprecision : 2 ≤ format.precision) {steps : ℚ} (hnonneg : 0 ≤ steps) :
    ∃ units, format.Nearest steps units := by
  have hnearest := nearest_roundUnits hprecision steps.num.natAbs steps.den_pos
  have hnum : ((steps.num.natAbs : Nat) : ℚ) = steps.num := by
    rw [← Int.cast_natCast, Int.natAbs_of_nonneg (Rat.num_nonneg.2 hnonneg)]
  rw [hnum, Rat.num_div_den] at hnearest
  exact ⟨_, hnearest⟩

/-- A magnitude at the limit or beyond it is rounded to infinity. -/
theorem rounds_infinite (hprecision : 2 ≤ format.precision) (negative : Bool) {magnitude : ℚ}
    (hlimit : 2 ^ format.limit ≤ magnitude) :
    (Binary.infinite negative : Binary format).Rounds negative magnitude := by
  have hsteps : ((2 ^ (format.limit + format.scale) : Nat) : ℚ) ≤ magnitude * 2 ^ format.scale := by
    rw [Nat.cast_pow, Nat.cast_ofNat, pow_add]
    exact mul_le_mul_of_nonneg_right hlimit (by positivity)
  obtain ⟨units, hnearest⟩ := exists_nearest hprecision (le_trans (Nat.cast_nonneg _) hsteps)
  have hself : format.Nearest (2 ^ (format.limit + format.scale) : Nat)
      (2 ^ (format.limit + format.scale)) :=
    nearest_self (holds_two_pow (by omega) _)
  exact .infinite units hnearest (hself.mono (by omega) hnearest hsteps)

theorem rounds_ofRatio (hprecision : 2 ≤ format.precision) (negative : Bool) (num : Nat) {den : Nat}
    (hden : 0 < den) : (format.ofRatio negative num den).Rounds negative (num / den) := by
  have hnearest : format.Nearest (num / den * 2 ^ format.scale)
      (format.roundUnits (num * Nat.pow 2 format.scale) den) := by
    have hsteps : (num : ℚ) / den * 2 ^ format.scale = (num * 2 ^ format.scale : Nat) / den := by
      rw [Nat.cast_mul, Nat.cast_pow, Nat.cast_ofNat, div_mul_eq_mul_div]
    rw [hsteps]
    exact nearest_roundUnits hprecision _ hden
  unfold ofRatio
  dsimp only
  split
  · next hlimit => exact .finite _ hnearest hlimit
  · next hlimit => exact .infinite _ hnearest (Nat.le_of_not_lt hlimit)

end BinaryFormat

namespace Binary

/-- A number is rounded in one way. -/
theorem Rounds.unique (hprecision : 1 ≤ format.precision) {negative : Bool} {magnitude : ℚ}
    {b b' : Binary format} (h : b.Rounds negative magnitude) (h' : b'.Rounds negative magnitude) :
    b' = b := by
  cases h with
  | finite units hnearest hlimit =>
    cases h' with
    | finite units' hnearest' hlimit' => rw [hnearest.unique hprecision hnearest']
    | infinite units' hnearest' hlimit' =>
      have heq := hnearest.unique hprecision hnearest'
      omega
  | infinite units hnearest hlimit =>
    cases h' with
    | finite units' hnearest' hlimit' =>
      have heq := hnearest.unique hprecision hnearest'
      omega
    | infinite units' hnearest' hlimit' => rfl

end Binary

namespace Decimal

/-- A decimal number becomes the number of the format that it is rounded to. -/
theorem rounds_toBinary (hprecision : 2 ≤ format.precision) (d : Decimal) :
    (d.toBinary format).Rounds d.negative d.magnitude := by
  obtain ⟨negative, digits, exponent⟩ := d
  unfold toBinary magnitude
  dsimp only
  split
  · next hzero =>
    refine .finite 0 ?_ (Nat.two_pow_pos _)
    rw [hzero, Nat.cast_zero, zero_mul, zero_mul]
    exact_mod_cast BinaryFormat.nearest_self BinaryFormat.holds_zero
  · next hdigits =>
    have hone : (1 : ℚ) ≤ digits := by exact_mod_cast Nat.one_le_iff_ne_zero.2 hdigits
    cases exponent with
    | ofNat e =>
      have hvalue : (digits : ℚ) * 10 ^ (Int.ofNat e) = (digits * 10 ^ e : Nat) / (1 : Nat) := by
        rw [Int.ofNat_eq_natCast, zpow_natCast, Nat.cast_mul, Nat.cast_pow, Nat.cast_ofNat,
          Nat.cast_one, div_one]
      have hrounds := format.rounds_ofRatio hprecision negative (digits * 10 ^ e) one_pos
      dsimp only
      split
      · next he =>
        -- The power of ten alone reaches the limit already.
        refine BinaryFormat.rounds_infinite hprecision negative ?_
        rw [Int.ofNat_eq_natCast, zpow_natCast]
        calc (2 : ℚ) ^ format.limit ≤ 10 ^ format.limit := by gcongr; norm_num
          _ ≤ 10 ^ e := by gcongr; norm_num
          _ ≤ digits * 10 ^ e := le_mul_of_one_le_left (by positivity) hone
      · rw [hvalue]
        exact hrounds
    | negSucc e =>
      have hvalue : (digits : ℚ) * 10 ^ (Int.negSucc e) = digits / (10 ^ (e + 1) : Nat) := by
        rw [zpow_negSucc, Nat.cast_pow, Nat.cast_ofNat, div_eq_mul_inv]
      rw [hvalue]
      dsimp only
      split
      · next he =>
        refine .finite 0 (BinaryFormat.nearest_zero hprecision (by positivity) ?_)
          (Nat.two_pow_pos _)
        have hless : digits * 2 ^ format.scale * 2 < 10 ^ (e + 1) := by
          calc digits * 2 ^ format.scale * 2
              < 2 ^ (digits.log2 + 1) * 2 ^ format.scale * 2 := by
                gcongr
                exact Nat.lt_log2_self
            _ = 2 ^ (digits.log2 + 1 + format.scale + 1) := by ring
            _ ≤ 2 ^ (e + 1) := Nat.pow_le_pow_right two_pos (by omega)
            _ ≤ 10 ^ (e + 1) := Nat.pow_le_pow_left (by decide) _
        have hless' : (digits : ℚ) * 2 ^ format.scale * 2 < (10 ^ (e + 1) : Nat) := by
          exact_mod_cast hless
        rw [div_mul_eq_mul_div, div_lt_div_iff₀ (by positivity) two_pos]
        linarith
      · exact format.rounds_ofRatio hprecision negative digits (Nat.pow_pos (by decide))

/-- A decimal number becomes the number that it is rounded to. -/
theorem toBinary_eq_iff (hprecision : 2 ≤ format.precision) {d : Decimal} {b : Binary format} :
    d.toBinary format = b ↔ b.Rounds d.negative d.magnitude := by
  have hrounds := d.rounds_toBinary hprecision
  constructor
  · rintro rfl
    exact hrounds
  · intro h
    exact h.unique (by omega) hrounds

end Decimal

/-- A magnitude with a sign. -/
def signed (negative : Bool) (magnitude : ℚ) : ℚ :=
  if negative then -magnitude else magnitude

namespace Finite

/-- The number that a finite number of a format is. -/
def value (x : Finite format) : ℚ :=
  x.steps / 2 ^ format.scale

theorem value_eq_signed (x : Finite format) :
    x.value = signed x.negative (x.units / 2 ^ format.scale) := by
  unfold value steps signed
  split
  · rw [Int.cast_neg, Int.cast_natCast, neg_div]
  · rw [Int.cast_natCast]

theorem order_eq_compare_value (x y : Finite format) : x.order y = compare x.value y.value := by
  have hscale : (0 : ℚ) < 2 ^ format.scale := by positivity
  unfold order value
  rcases lt_trichotomy x.steps y.steps with hlt | heq | hgt
  · rw [compare_lt_iff_lt.2 hlt, eq_comm, compare_lt_iff_lt]
    exact div_lt_div_of_pos_right (by exact_mod_cast hlt) hscale
  · rw [heq, compare_eq_iff_eq.2 rfl, compare_eq_iff_eq.2 rfl]
  · rw [compare_gt_iff_gt.2 hgt, eq_comm, compare_gt_iff_gt]
    exact div_lt_div_of_pos_right (by exact_mod_cast hgt) hscale

end Finite

theorem abs_signed (negative : Bool) {magnitude : ℚ} (h : 0 ≤ magnitude) :
    |signed negative magnitude| = magnitude := by
  unfold signed
  split
  · rw [abs_neg, abs_of_nonneg h]
  · exact abs_of_nonneg h

namespace Binary

section

variable {x y : Finite format} {negative negative' : Bool} {magnitude magnitude' : ℚ}

theorem Rounds.nearest (h : (Binary.finite x).Rounds negative magnitude) :
    x.negative = negative ∧ format.Nearest (magnitude * 2 ^ format.scale) x.units := by
  cases h with
  | finite units hnearest hlimit => exact ⟨rfl, hnearest⟩

/-- Rounding keeps the order of numbers. -/
theorem Rounds.steps_le (hprecision : 1 ≤ format.precision)
    (h : (Binary.finite x).Rounds negative magnitude)
    (h' : (Binary.finite y).Rounds negative' magnitude') (hnonneg : 0 ≤ magnitude)
    (hnonneg' : 0 ≤ magnitude') (hle : signed negative magnitude ≤ signed negative' magnitude') :
    x.steps ≤ y.steps := by
  obtain ⟨rfl, hx⟩ := h.nearest
  obtain ⟨rfl, hy⟩ := h'.nearest
  have hscale : (0 : ℚ) ≤ 2 ^ format.scale := by positivity
  unfold signed at hle
  unfold Finite.steps
  cases hnegative : x.negative with
  | false =>
    cases hnegative' : y.negative with
    | false =>
      simp only [hnegative, hnegative', Bool.false_eq_true, if_false] at hle ⊢
      exact_mod_cast hx.mono hprecision hy (mul_le_mul_of_nonneg_right hle hscale)
    | true =>
      simp only [hnegative, hnegative', Bool.false_eq_true, if_false, if_true] at hle ⊢
      -- Neither number is anything but zero.
      have hzero := hx.eq_zero hprecision (mul_nonpos_of_nonpos_of_nonneg (by linarith) hscale)
      have hzero' := hy.eq_zero hprecision (mul_nonpos_of_nonpos_of_nonneg (by linarith) hscale)
      rw [hzero, hzero']
      rfl
  | true =>
    cases hnegative' : y.negative with
    | false =>
      simp only [Bool.false_eq_true, if_false, if_true]
      omega
    | true =>
      simp only [hnegative, hnegative', if_true, neg_le_neg_iff] at hle ⊢
      exact_mod_cast hy.mono hprecision hx (mul_le_mul_of_nonneg_right hle hscale)

/-- Rounding changes nothing that the format holds. -/
theorem Rounds.value_eq (hprecision : 1 ≤ format.precision)
    (h : (Binary.finite x).Rounds negative magnitude) (hnonneg : 0 ≤ magnitude) {z : Finite format}
    (hholds : format.Holds z.units) (hvalue : z.value = signed negative magnitude) :
    x.value = signed negative magnitude := by
  obtain ⟨rfl, hnearest⟩ := h.nearest
  have hscale : (0 : ℚ) < 2 ^ format.scale := by positivity
  have hmagnitude : (z.units : ℚ) / 2 ^ format.scale = magnitude := by
    rw [← abs_signed x.negative hnonneg, ← hvalue, Finite.value_eq_signed,
      abs_signed _ (by positivity)]
  have hsteps : magnitude * 2 ^ format.scale = z.units := by
    rw [← hmagnitude, div_mul_cancel₀ _ hscale.ne']
  rw [hsteps] at hnearest
  have hunits := hnearest.unique hprecision (BinaryFormat.nearest_self hholds)
  rw [Finite.value_eq_signed, ← hunits, hmagnitude]

end

end Binary

end Scoreboard
