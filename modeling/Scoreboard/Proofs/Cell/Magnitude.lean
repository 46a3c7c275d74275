import Scoreboard.Proofs.Cell.Kind
import Scoreboard.Proofs.Cell.Score

/-!
# The order of the numbers that texts name

Numbers are compared as they are rounded. Rounding can bring two numbers together, but it never
turns them round, and it leaves doubles as they are.

## Main definitions

- `Numeral.Leads` — the number that the longest numeral at the front of a text names
- `RoundedOrder` — the order of two numbers, as far as rounding lets it be seen

## Main statements

- `CellValue.compare?_eq_some_roundedOrder` — two numbers are never placed in the wrong order
-/

namespace Scoreboard

/-- The number is one of the format. -/
def BinaryFormat.Represents (format : BinaryFormat) (value : ℚ) : Prop :=
  ∃ z : Finite format, format.Holds z.units ∧ z.units < 2 ^ (format.limit + format.scale) ∧
    z.value = value

/-- What the order of two numbers can be after they have been rounded. -/
structure RoundedOrder (format : BinaryFormat) (a b : ℚ) (o : Ordering) : Prop where
  ne_gt : a < b → o ≠ .gt
  eq : a = b → o = .eq
  ne_lt : b < a → o ≠ .lt
  /-- Numbers that the format has keep their order. -/
  exact : format.Represents a → format.Represents b → o = compare a b

namespace Binary

variable {format : BinaryFormat} {x y : Finite format} {negative negative' : Bool}
  {magnitude magnitude' : ℚ}

theorem Rounds.roundedOrder (hprecision : 1 ≤ format.precision)
    (h : (Binary.finite x).Rounds negative magnitude)
    (h' : (Binary.finite y).Rounds negative' magnitude') (hnonneg : 0 ≤ magnitude)
    (hnonneg' : 0 ≤ magnitude') :
    RoundedOrder format (signed negative magnitude) (signed negative' magnitude') (x.order y) where
  ne_gt hlt := by
    have hsteps := h.steps_le hprecision h' hnonneg hnonneg' hlt.le
    exact fun hgt => absurd (compare_gt_iff_gt.1 hgt) (not_lt.2 hsteps)
  eq heq := by
    have hsteps := h.steps_le hprecision h' hnonneg hnonneg' heq.le
    have hsteps' := h'.steps_le hprecision h hnonneg' hnonneg heq.ge
    exact compare_eq_iff_eq.2 (le_antisymm hsteps hsteps')
  ne_lt hlt := by
    have hsteps := h'.steps_le hprecision h hnonneg' hnonneg hlt.le
    exact fun hlt' => absurd (compare_lt_iff_lt.1 hlt') (not_lt.2 hsteps)
  exact := by
    rintro ⟨z, hholds, -, hvalue⟩ ⟨z', hholds', -, hvalue'⟩
    rw [Finite.order_eq_compare_value, h.value_eq hprecision hnonneg hholds hvalue,
      h'.value_eq hprecision hnonneg' hholds' hvalue']

end Binary

namespace Numeral

/-- The number that the longest numeral at the front of a text names. -/
def Leads (text : List Char) (value : ℚ) : Prop :=
  ∃ numeral run after magnitude, StandsAtFront numeral run after text ∧ numeral.Names magnitude ∧
    value = signed numeral.negative magnitude

theorem Names.nonneg {numeral : Numeral} {magnitude : ℚ} (h : numeral.Names magnitude) :
    0 ≤ magnitude := by
  obtain ⟨n, exponent, -, -, rfl⟩ := h
  exact mul_nonneg n.cast_nonneg (zpow_nonneg (by norm_num) _)

/-- The number of a text is the one that its numeral names, rounded. -/
theorem exists_rounds_of_score? {text : List Char} {x : Finite binary64}
    (h : score? text = some x) :
    ∃ negative magnitude, 0 ≤ magnitude ∧ (Binary.finite x).Rounds negative magnitude ∧
      ∀ value, Leads text value ↔ value = signed negative magnitude := by
  obtain ⟨numeral, hfound⟩ : ∃ numeral, atFront? text = some numeral := by
    rw [← Option.ne_none_iff_exists']
    intro hnone
    rw [score?_eq_none_of_atFront? hnone] at h
    cases h
  obtain ⟨magnitude, hnames, hrounds⟩ := (score?_eq_some_iff_names hfound).1 h
  obtain ⟨run, after, hstands⟩ := atFront?_eq_some_iff.1 hfound
  refine ⟨numeral.negative, magnitude, hnames.nonneg, hrounds, fun value => ⟨?_, ?_⟩⟩
  · rintro ⟨numeral', run', after', magnitude', hstands', hnames', rfl⟩
    obtain ⟨rfl, -, -⟩ := hstands.unique hstands'
    rw [hnames.unique hnames']
  · rintro rfl
    exact ⟨numeral, run, after, magnitude, hstands, hnames, rfl⟩

end Numeral

namespace CellValue

open Numeral (Leads)

variable {year : Int} {raw left right : String}

theorem exists_score_of_kind (h : (read year raw).kind = .number) :
    ∃ x, read year raw = .number x ∧ Numeral.score? (Text.trimChars raw.toList) = some x := by
  unfold read at h ⊢
  dsimp only at h ⊢
  cases hstamp : Stamp.read? year (Text.trimChars raw.toList) with
  | some moment => rw [hstamp] at h; cases h
  | none =>
    cases hscore : Numeral.score? (Text.trimChars raw.toList) with
    | some x => exact ⟨x, rfl, rfl⟩
    | none => rw [hstamp, hscore] at h; cases h

/-- Two texts that stand for numbers always have an order, and it is that of the numbers that their
    longest numerals name, as far as doubles can tell them apart. -/
theorem compare?_eq_some_roundedOrder (hl : (read year left).kind = .number)
    (hr : (read year right).kind = .number) :
    ∃ a b o, (∀ value, Leads (Text.trimChars left.toList) value ↔ value = a) ∧
      (∀ value, Leads (Text.trimChars right.toList) value ↔ value = b) ∧
      compare? year left right = some o ∧ RoundedOrder binary64 a b o := by
  obtain ⟨x, hx, hscore⟩ := exists_score_of_kind hl
  obtain ⟨y, hy, hscore'⟩ := exists_score_of_kind hr
  obtain ⟨negative, magnitude, hnonneg, hrounds, hleads⟩ := Numeral.exists_rounds_of_score? hscore
  obtain ⟨negative', magnitude', hnonneg', hrounds', hleads'⟩ :=
    Numeral.exists_rounds_of_score? hscore'
  exact ⟨_, _, _, hleads, hleads', compare?_number hx hy,
    hrounds.roundedOrder (by decide) hrounds' hnonneg hnonneg'⟩

/-- Two numbers that become one double. -/
theorem compare?_eq_some_roundedOrder_tie :
    (read 2024 "9007199254740993 (T3)").kind = .number ∧
      (read 2024 " 9007199254740992.9e0").kind = .number ∧
      ∃ a b, Leads (Text.trimChars "9007199254740993 (T3)".toList) a ∧
        Leads (Text.trimChars " 9007199254740992.9e0".toList) b ∧
        RoundedOrder binary64 a b .eq := by
  have hl : (read 2024 "9007199254740993 (T3)").kind = .number := by decide +kernel
  have hr : (read 2024 " 9007199254740992.9e0").kind = .number := by decide +kernel
  obtain ⟨a, b, o, ha, hb, ho, horder⟩ := compare?_eq_some_roundedOrder hl hr
  have htie : compare? 2024 "9007199254740993 (T3)" " 9007199254740992.9e0" = some .eq := by
    decide +kernel
  rw [htie, Option.some_inj] at ho
  subst ho
  exact ⟨hl, hr, a, b, (ha a).2 rfl, (hb b).2 rfl, horder⟩

end CellValue

end Scoreboard
