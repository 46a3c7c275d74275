import Mathlib.Algebra.Order.Field.Rat
import Mathlib.Tactic.FieldSimp
import Mathlib.Tactic.Linarith
import Mathlib.Tactic.Positivity
import Mathlib.Tactic.Ring
import Scoreboard.Number.Binary

/-!
# Rounding to nearest

What it means that a number of a format is the one nearest to a rational number, said without the
way in which it is found. A magnitude is a count of steps of the finest grid.

## Main definitions

- `BinaryFormat.Writes` — a magnitude as the format writes it, with a significand and an exponent
- `BinaryFormat.Nearest` — the nearest magnitude of the format, a tie going to the even significand

## Main statements

- `BinaryFormat.nearest_roundUnits` — the rounding finds the nearest magnitude
- `BinaryFormat.Nearest.unique` — there is only one
- `BinaryFormat.Nearest.mono` — rounding keeps the order of numbers
- `BinaryFormat.nearest_self` — it changes nothing that the format holds

## Design notes

The largest magnitude of the format plays no part here. A number is rounded as if magnitudes went on
without end, and only then compared with the limit.
-/

namespace Scoreboard

/-- The integer nearest to a number, a tie going to the even one. -/
def NearestInteger (t : ℚ) (n : Nat) : Prop :=
  |t - n| < 1 / 2 ∨ |t - n| = 1 / 2 ∧ Even n

namespace NearestInteger

variable {t : ℚ} {n : Nat} (h : NearestInteger t n)

include h

theorem abs_le_half : |t - n| ≤ 1 / 2 := by
  rcases h with hless | ⟨htie, -⟩
  · exact hless.le
  · exact htie.le

theorem lt_or_even {k : Nat} (hk : k ≠ n) :
    |t - n| < |t - k| ∨ |t - n| = |t - k| ∧ Even n := by
  have hapart : (1 : ℚ) ≤ |(n : ℚ) - k| := by
    have hint : (1 : Int) ≤ |(n : Int) - k| := Int.one_le_abs (by omega)
    exact_mod_cast hint
  have htriangle : |(n : ℚ) - k| ≤ |t - n| + |t - k| := by
    rw [abs_sub_comm t n]
    simpa using abs_add_le ((n : ℚ) - t) (t - k)
  rcases h with hless | ⟨htie, heven⟩
  · exact .inl (by linarith)
  · have hle : |t - n| ≤ |t - k| := by linarith
    exact hle.lt_or_eq.imp_right fun heq => ⟨heq, heven⟩

theorem abs_le (k : Nat) : |t - n| ≤ |t - k| := by
  by_cases hk : k = n
  · rw [hk]
  · rcases h.lt_or_even hk with hless | ⟨htie, -⟩
    · exact hless.le
    · exact htie.le

theorem le_of_natCast_le {k : Nat} (hk : (k : ℚ) ≤ t) : k ≤ n := by
  by_contra hlt
  have hless : (n : ℚ) + 1 ≤ k := by exact_mod_cast Nat.lt_of_not_le hlt
  have hhalf := le_trans (le_abs_self _) h.abs_le_half
  linarith

theorem le_of_le_natCast {k : Nat} (hk : t ≤ k) : n ≤ k := by
  by_contra hlt
  have hless : (k : ℚ) + 1 ≤ n := by exact_mod_cast Nat.lt_of_not_le hlt
  have hhalf := le_trans (neg_le_abs _) h.abs_le_half
  linarith

end NearestInteger

theorem nearestInteger_roundEven (num : Nat) {den : Nat} (hden : 0 < den) :
    NearestInteger (num / den) (roundEven num den) := by
  have hpos : (0 : ℚ) < den := by exact_mod_cast hden
  have hsplit : (num : ℚ) = den * (num / den : Nat) + (num % den : Nat) := by
    exact_mod_cast (Nat.div_add_mod num den).symm
  -- The distances from the integers below and above, as parts of the divisor.
  have hbelow : (num : ℚ) / den - (num / den : Nat) = (num % den : Nat) / den := by
    rw [hsplit]
    field_simp
    ring
  have habove : (num : ℚ) / den - ((num / den + 1 : Nat) : ℚ) =
      -(((den : ℚ) - (num % den : Nat)) / den) := by
    rw [Nat.cast_succ, ← sub_sub, hbelow]
    field_simp
    ring
  have hless : num % den < den := Nat.mod_lt num hden
  have hrest : (0 : ℚ) ≤ (num % den : Nat) / den := by positivity
  have hgap : (0 : ℚ) ≤ ((den : ℚ) - (num % den : Nat)) / den := by
    apply div_nonneg _ hpos.le
    rw [sub_nonneg]
    exact_mod_cast hless.le
  unfold NearestInteger roundEven
  dsimp only
  split
  · next hlow =>
    left
    rw [hbelow, abs_of_nonneg hrest, div_lt_div_iff₀ hpos two_pos]
    have : (2 : ℚ) * (num % den : Nat) < den := by exact_mod_cast hlow
    linarith
  · next hlow =>
    split
    · next hhigh =>
      left
      rw [habove, abs_neg, abs_of_nonneg hgap, div_lt_div_iff₀ hpos two_pos]
      have : (den : ℚ) < 2 * (num % den : Nat) := by exact_mod_cast hhigh
      linarith
    · next hhigh =>
      have htie : (2 : ℚ) * (num % den : Nat) = den := by
        exact_mod_cast (show 2 * (num % den) = den by omega)
      split
      · next heven =>
        right
        rw [hbelow, abs_of_nonneg hrest, div_eq_div_iff hpos.ne' two_ne_zero]
        exact ⟨by linarith, Nat.even_iff.2 heven⟩
      · next hodd =>
        right
        rw [habove, abs_neg, abs_of_nonneg hgap, div_eq_div_iff hpos.ne' two_ne_zero]
        exact ⟨by linarith, Nat.even_iff.2 (by omega)⟩

namespace BinaryFormat

variable {format : BinaryFormat}

/-- A magnitude, in steps of the finest grid, as the format writes it: a significand of at most
    `precision` bits, and the power of two that it counts. All the bits are in use, except on the
    finest grid. -/
structure Writes (format : BinaryFormat) (units significand exponent : Nat) : Prop where
  units_eq : units = significand * 2 ^ exponent
  lt : significand < 2 ^ format.precision
  full : 2 ^ (format.precision - 1) ≤ significand ∨ exponent = 0

/-- The format can write the magnitude, if it is large enough. -/
def Holds (format : BinaryFormat) (units : Nat) : Prop :=
  ∃ significand exponent, format.Writes units significand exponent

/-- The magnitude of the format that is nearest to a number of steps. Of two that are as near it is
    the one with the even significand. -/
def Nearest (format : BinaryFormat) (steps : ℚ) (units : Nat) : Prop :=
  ∃ significand exponent, format.Writes units significand exponent ∧
    ∀ other, format.Holds other → other ≠ units →
      |steps - units| < |steps - other| ∨ |steps - units| = |steps - other| ∧ Even significand

section

variable {units units' m m' e e' : Nat}

/-- A magnitude is below all that a coarser grid adds. -/
theorem Writes.lt_of_exponent_lt (h : format.Writes units m e) (hlt : e < e') :
    units < 2 ^ (format.precision - 1) * 2 ^ e' := by
  calc units = m * 2 ^ e := h.units_eq
    _ < 2 ^ format.precision * 2 ^ e := Nat.mul_lt_mul_of_pos_right h.lt (Nat.two_pow_pos e)
    _ = 2 ^ (format.precision + e) := (pow_add ..).symm
    _ ≤ 2 ^ (format.precision - 1 + e') := Nat.pow_le_pow_right two_pos (by omega)
    _ = 2 ^ (format.precision - 1) * 2 ^ e' := pow_add ..

/-- A larger magnitude does not lie on a finer grid. -/
theorem Writes.exponent_le (h : format.Writes units m e) (h' : format.Writes units' m' e')
    (hle : units ≤ units') : e ≤ e' := by
  by_contra hlt
  have hfull : 2 ^ (format.precision - 1) * 2 ^ e ≤ units := by
    rw [h.units_eq]
    exact Nat.mul_le_mul_right _ (h.full.resolve_right (by omega))
  have hless := h'.lt_of_exponent_lt (Nat.lt_of_not_le hlt)
  omega

/-- There is one way to write a magnitude. -/
theorem Writes.unique (h : format.Writes units m e) (h' : format.Writes units m' e') :
    m' = m ∧ e' = e := by
  have he : e' = e := Nat.le_antisymm (h'.exponent_le h le_rfl) (h.exponent_le h' le_rfl)
  subst he
  exact ⟨Nat.eq_of_mul_eq_mul_right (Nat.two_pow_pos e') (h'.units_eq.symm.trans h.units_eq), rfl⟩

/-- The step at a magnitude divides every larger one. -/
theorem Writes.dvd (h : format.Writes units m e) (hle : units ≤ units')
    (hholds : format.Holds units') : 2 ^ e ∣ units' := by
  obtain ⟨m', e', h'⟩ := hholds
  rw [h'.units_eq]
  exact (pow_dvd_pow 2 (h.exponent_le h' hle)).mul_left m'

/-- After a magnitude whose significand is even comes the one with the next significand. -/
theorem Writes.succ (hprecision : 1 ≤ format.precision) (h : format.Writes units m e)
    (heven : Even m) : format.Writes (units + 2 ^ e) (m + 1) e where
  units_eq := by rw [h.units_eq, Nat.succ_mul]
  lt := by
    -- The bound is even too.
    obtain ⟨k, rfl⟩ := heven
    have hlt := h.lt
    have hbound : 2 ^ format.precision = 2 * 2 ^ (format.precision - 1) := by
      rw [← pow_succ', Nat.sub_add_cancel hprecision]
    omega
  full := h.full.imp_left fun hle => by omega

/-- A significand that is one too large for the format fits after all, on the next grid. -/
theorem exists_writes (hprecision : 2 ≤ format.precision) (hle : m ≤ 2 ^ format.precision)
    (hfull : 2 ^ (format.precision - 1) ≤ m ∨ e = 0) :
    ∃ m' e', format.Writes (m * 2 ^ e) m' e' ∧ (Even m → Even m') := by
  by_cases hlt : m < 2 ^ format.precision
  · exact ⟨m, e, ⟨rfl, hlt, hfull⟩, id⟩
  · have hm : m = 2 ^ format.precision := by omega
    have hhalf : 2 ^ format.precision = 2 ^ (format.precision - 1) * 2 := by
      rw [← pow_succ, Nat.sub_add_cancel (by omega)]
    refine ⟨2 ^ (format.precision - 1), e + 1, ⟨?_, ?_, .inl le_rfl⟩, fun _ => ?_⟩
    · rw [hm, hhalf, pow_succ', Nat.mul_assoc]
    · exact Nat.pow_lt_pow_right one_lt_two (by omega)
    · exact (Nat.even_pow' (by omega)).2 even_two

/-- Dropping the bits beyond the precision leaves a significand. -/
theorem div_excess (hprecision : 1 ≤ format.precision) (n : Nat) :
    n / 2 ^ format.excess n < 2 ^ format.precision ∧
      (2 ^ (format.precision - 1) ≤ n / 2 ^ format.excess n ∨ format.excess n = 0) := by
  constructor
  · rw [Nat.div_lt_iff_lt_mul (Nat.two_pow_pos _), ← pow_add]
    refine Nat.lt_of_lt_of_le Nat.lt_log2_self (Nat.pow_le_pow_right two_pos ?_)
    unfold excess
    omega
  · by_cases hexcess : format.excess n = 0
    · exact .inr hexcess
    · left
      have hn : n ≠ 0 := by
        rintro rfl
        apply hexcess
        simp [excess, Nat.log2_zero, hprecision]
      rw [Nat.le_div_iff_mul_le (Nat.two_pow_pos _), ← pow_add]
      refine Nat.le_trans (Nat.pow_le_pow_right two_pos ?_) (Nat.log2_self_le hn)
      unfold excess at hexcess ⊢
      omega

end

section

variable {steps steps' : ℚ} {units units' : Nat}

theorem Nearest.holds (h : format.Nearest steps units) : format.Holds units := by
  obtain ⟨m, e, hwrites, -⟩ := h
  exact ⟨m, e, hwrites⟩

theorem Nearest.abs_le (h : format.Nearest steps units) (h' : format.Holds units') :
    |steps - units| ≤ |steps - units'| := by
  obtain ⟨m, e, -, hnearest⟩ := h
  by_cases heq : units' = units
  · rw [heq]
  · rcases hnearest units' h' heq with hlt | ⟨htie, -⟩
    · exact hlt.le
    · exact htie.le

theorem nearest_self (h : format.Holds units) : format.Nearest units units := by
  obtain ⟨m, e, hwrites⟩ := h
  refine ⟨m, e, hwrites, fun other _ hne => .inl ?_⟩
  rw [sub_self, abs_zero, abs_pos, sub_ne_zero]
  exact_mod_cast hne.symm

/-- Between two nearest magnitudes there would be a nearer one. -/
theorem Nearest.not_lt (hprecision : 1 ≤ format.precision) (h : format.Nearest steps units)
    (h' : format.Nearest steps units') : ¬ units < units' := by
  intro hlt
  have htie : |steps - units| = |steps - units'| :=
    le_antisymm (h.abs_le h'.holds) (h'.abs_le h.holds)
  obtain ⟨m, e, hwrites, hnearest⟩ := h
  obtain ⟨m', e', hwrites', hnearest'⟩ := h'
  have heven : Even m := by
    rcases hnearest units' ⟨m', e', hwrites'⟩ hlt.ne' with hless | ⟨-, heven⟩
    · exact absurd htie hless.ne
    · exact heven
  have heven' : Even m' := by
    rcases hnearest' units ⟨m, e, hwrites⟩ hlt.ne with hless | ⟨-, heven'⟩
    · exact absurd htie hless.ne'
    · exact heven'
  have hnext : format.Writes (units + 2 ^ e) (m + 1) e := hwrites.succ hprecision heven
  -- The next magnitude has an odd significand, so it is not the other one.
  have hne : units + 2 ^ e ≠ units' := by
    rintro rfl
    obtain ⟨rfl, -⟩ := hnext.unique hwrites'
    exact (Nat.even_add_one.1 heven') heven
  have hstep : 2 ^ e ≤ units' - units := by
    apply Nat.le_of_dvd (by omega)
    exact Nat.dvd_sub (hwrites.dvd hlt.le ⟨m', e', hwrites'⟩) (hwrites.dvd le_rfl ⟨m, e, hwrites⟩)
  have hpos : 0 < 2 ^ e := Nat.two_pow_pos e
  have hleft : (units : ℚ) < (units + 2 ^ e : Nat) := by exact_mod_cast (by omega)
  have hright : ((units + 2 ^ e : Nat) : ℚ) < units' := by exact_mod_cast (by omega)
  have hmiddle : steps - units = -(steps - units') := by
    refine (abs_eq_abs.1 htie).resolve_left fun heq => ?_
    linarith
  have hnearer : |steps - (units + 2 ^ e : Nat)| < |steps - units| := by
    rw [abs_of_nonneg (show (0 : ℚ) ≤ steps - units by linarith), abs_lt]
    constructor <;> linarith
  rcases hnearest _ ⟨m + 1, e, hnext⟩ (by omega) with hless | ⟨heq, -⟩
  · exact absurd hnearer hless.not_gt
  · exact absurd hnearer heq.not_gt

theorem Nearest.unique (hprecision : 1 ≤ format.precision) (h : format.Nearest steps units)
    (h' : format.Nearest steps units') : units' = units :=
  Nat.le_antisymm (Nat.le_of_not_lt (h.not_lt hprecision h'))
    (Nat.le_of_not_lt (h'.not_lt hprecision h))

/-- Rounding keeps the order of numbers. -/
theorem Nearest.mono (hprecision : 1 ≤ format.precision) (h : format.Nearest steps units)
    (h' : format.Nearest steps' units') (hle : steps ≤ steps') : units ≤ units' := by
  by_contra hlt
  have hless : (units' : ℚ) < units := by exact_mod_cast Nat.lt_of_not_le hlt
  -- Neither number is beyond the middle of the two magnitudes, so both lie there.
  have habove : (units : ℚ) + units' ≤ 2 * steps := by
    have hsq := sq_le_sq.2 (h.abs_le h'.holds)
    nlinarith
  have hbelow : 2 * steps' ≤ (units : ℚ) + units' := by
    have hsq := sq_le_sq.2 (h'.abs_le h.holds)
    nlinarith
  have heq : steps' = steps := by linarith
  subst heq
  exact hlt (h.unique hprecision h').ge

end

/-- On the grid on which a number has as many bits as the format keeps, the nearest integer counts
    the steps of the nearest magnitude. -/
theorem nearest_of_nearestInteger (hprecision : 2 ≤ format.precision) {t : ℚ} {m d : Nat}
    (h : NearestInteger t m) (hlt : t < 2 ^ format.precision)
    (hfull : 2 ^ (format.precision - 1) ≤ t ∨ d = 0) :
    format.Nearest (t * 2 ^ d) (m * 2 ^ d) := by
  have hm : m ≤ 2 ^ format.precision := h.le_of_le_natCast (by exact_mod_cast hlt.le)
  have hmfull : 2 ^ (format.precision - 1) ≤ m ∨ d = 0 :=
    hfull.imp_left fun hle => h.le_of_natCast_le (by exact_mod_cast hle)
  obtain ⟨m', e', hwrites, heven⟩ := exists_writes hprecision hm hmfull
  refine ⟨m', e', hwrites, ?_⟩
  rintro other ⟨k, e, hother⟩ hne
  have hpow : (0 : ℚ) < 2 ^ d := by positivity
  -- Distances on the grid are those from integers.
  have hscale (n : Nat) : |t * 2 ^ d - (n * 2 ^ d : Nat)| = |t - n| * 2 ^ d := by
    rw [Nat.cast_mul, Nat.cast_pow, Nat.cast_ofNat, ← sub_mul, abs_mul, abs_of_pos hpow]
  rw [hscale]
  by_cases hgrid : d ≤ e
  · obtain ⟨n, rfl⟩ : ∃ n, other = n * 2 ^ d := by
      refine ⟨k * 2 ^ (e - d), ?_⟩
      rw [hother.units_eq, Nat.mul_assoc, ← pow_add, Nat.sub_add_cancel hgrid]
    have hn : n ≠ m := by
      rintro rfl
      exact hne rfl
    rw [hscale]
    rcases h.lt_or_even hn with hless | ⟨htie, hmeven⟩
    · exact .inl (mul_lt_mul_of_pos_right hless hpow)
    · exact .inr ⟨by rw [htie], heven hmeven⟩
  · -- A magnitude of a finer grid is below all that this one adds, and the number is not.
    have hleast : ((2 ^ (format.precision - 1) : Nat) : ℚ) ≤ t := by
      exact_mod_cast hfull.resolve_right (by omega)
    have hbelow : (other : ℚ) < (2 ^ (format.precision - 1) * 2 ^ d : Nat) := by
      exact_mod_cast hother.lt_of_exponent_lt (Nat.lt_of_not_le hgrid)
    have habove : ((2 ^ (format.precision - 1) * 2 ^ d : Nat) : ℚ) ≤ t * 2 ^ d := by
      rw [Nat.cast_mul, Nat.cast_pow 2 d, Nat.cast_ofNat]
      exact mul_le_mul_of_nonneg_right hleast hpow.le
    left
    calc |t - m| * 2 ^ d
        ≤ |t - (2 ^ (format.precision - 1) : Nat)| * 2 ^ d :=
          mul_le_mul_of_nonneg_right (h.abs_le _) hpow.le
      _ = |t * 2 ^ d - (2 ^ (format.precision - 1) * 2 ^ d : Nat)| := (hscale _).symm
      _ < |t * 2 ^ d - other| := by
        rw [abs_of_nonneg (sub_nonneg.2 habove), abs_of_nonneg (by linarith)]
        linarith

/-- The rounding finds the nearest magnitude. -/
theorem nearest_roundUnits (hprecision : 2 ≤ format.precision) (num : Nat) {den : Nat}
    (hden : 0 < den) : format.Nearest (num / den) (format.roundUnits num den) := by
  obtain ⟨hlt, hfull⟩ := format.div_excess (n := num / den) (by omega)
  unfold roundUnits
  dsimp only
  generalize format.excess (num / den) = d at hlt hfull ⊢
  rw [Nat.div_div_eq_div_mul] at hlt hfull
  have hpos : 0 < den * 2 ^ d := Nat.mul_pos hden (Nat.two_pow_pos d)
  have hpos' : (0 : ℚ) < (den * 2 ^ d : Nat) := by exact_mod_cast hpos
  have hsteps : (num : ℚ) / den = num / (den * 2 ^ d : Nat) * 2 ^ d := by
    rw [Nat.cast_mul, Nat.cast_pow, Nat.cast_ofNat]
    field_simp
  rw [hsteps]
  refine nearest_of_nearestInteger hprecision (nearestInteger_roundEven num hpos) ?_ ?_
  · rw [div_lt_iff₀ hpos']
    exact_mod_cast (Nat.div_lt_iff_lt_mul hpos).1 hlt
  · refine hfull.imp_left fun hle => ?_
    rw [le_div_iff₀ hpos']
    exact_mod_cast (Nat.le_div_iff_mul_le hpos).1 hle

end BinaryFormat

end Scoreboard
