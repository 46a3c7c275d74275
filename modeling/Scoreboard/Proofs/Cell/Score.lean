import Scoreboard.Proofs.Cell.Numeral
import Scoreboard.Proofs.Number.Decimal

/-!
# The number of a text

A text stands for the number that the numeral at its front names, correctly rounded. What comes
after the numeral plays no part. A numeral names nothing if one of its digits is beyond ASCII, and
stands for nothing if its double is infinite.

## Main definitions

- `Numeral.Names` — the magnitude of a numeral, by the places of its digits

## Main statements

- `Numeral.score?_eq_some_iff` — the number of a text is that of its longest numeral
-/

namespace Scoreboard

open Text (Spells)

namespace Numeral

/-- The value of an exponent. -/
def ExponentIs : Option (Bool × List Char) → Int → Prop
  | none, value => value = 0
  | some (negative, digits), value =>
    ∃ n, Spells digits n ∧ value = if negative then -(n : Int) else n

/-- The numeral names a number of this magnitude: all its digits are ASCII, and they are worth what
    their places before and after the point and the exponent make of them. -/
def Names (numeral : Numeral) (magnitude : ℚ) : Prop :=
  ∃ n exponent, Spells (numeral.whole ++ numeral.fraction) n ∧
    ExponentIs numeral.exponent exponent ∧
    magnitude = n * 10 ^ (exponent - numeral.fraction.length)

/-- All the digits of a numeral. -/
def digits (numeral : Numeral) : List Char :=
  numeral.whole ++ numeral.fraction ++ numeral.exponent.elim [] Prod.snd

theorem exponentValue?_eq_some_iff {exponent : Option (Bool × List Char)} {value : Int} :
    exponentValue? exponent = some value ↔ ExponentIs exponent value := by
  cases exponent with
  | none =>
    show some 0 = some value ↔ value = 0
    rw [Option.some_inj, eq_comm]
  | some exponent =>
    obtain ⟨negative, digits⟩ := exponent
    unfold exponentValue? ExponentIs
    simp only [Option.map_eq_some_iff, Option.bind_eq_bind, Option.bind_eq_some_iff,
      Option.pure_def, Option.some_inj, Text.natOfDigits?_eq_some_iff, eq_comm (a := value),
      exists_exists_and_eq_and]

theorem decimal?_eq_some_iff {numeral : Numeral} {d : Decimal} :
    numeral.decimal? = some d ↔ ∃ n exponent, Spells (numeral.whole ++ numeral.fraction) n ∧
      ExponentIs numeral.exponent exponent ∧
      d = ⟨numeral.negative, n, exponent - numeral.fraction.length⟩ := by
  simp only [decimal?, Option.bind_eq_bind, Option.bind_eq_some_iff, Option.pure_def,
    Text.natOfDigits?_eq_some_iff, exponentValue?_eq_some_iff, Option.some_inj, eq_comm (b := d),
    ← exists_and_left]

theorem decimal?_negative {numeral : Numeral} {d : Decimal} (h : numeral.decimal? = some d) :
    d.negative = numeral.negative := by
  obtain ⟨_, _, -, -, rfl⟩ := decimal?_eq_some_iff.1 h
  rfl

theorem names_iff {numeral : Numeral} {magnitude : ℚ} :
    numeral.Names magnitude ↔ ∃ d, numeral.decimal? = some d ∧ d.magnitude = magnitude := by
  constructor
  · rintro ⟨n, exponent, hdigits, hexponent, rfl⟩
    exact ⟨_, decimal?_eq_some_iff.2 ⟨n, exponent, hdigits, hexponent, rfl⟩, rfl⟩
  · rintro ⟨d, hd, rfl⟩
    obtain ⟨n, exponent, hdigits, hexponent, rfl⟩ := decimal?_eq_some_iff.1 hd
    exact ⟨n, exponent, hdigits, hexponent, rfl⟩

/-- A numeral names a number unless one of its digits is beyond ASCII. -/
theorem exists_names_iff {numeral : Numeral} :
    (∃ magnitude, numeral.Names magnitude) ↔ ∀ c ∈ numeral.digits, c.isDigit = true := by
  have hspells (digits : List Char) :
      (∃ n, Spells digits n) ↔ ∀ c ∈ digits, c.isDigit = true :=
    ⟨fun ⟨_, h⟩ => h.1, fun h => ⟨_, h, rfl⟩⟩
  have hexponent : (∃ value, ExponentIs numeral.exponent value) ↔
      ∀ c ∈ numeral.exponent.elim [] Prod.snd, c.isDigit = true := by
    cases numeral.exponent with
    | none => simp [ExponentIs]
    | some exponent =>
      show (∃ value, ∃ n, Spells exponent.2 n ∧ value = _) ↔ ∀ c ∈ exponent.2, c.isDigit = true
      rw [← hspells, exists_comm]
      simp only [exists_and_left, exists_eq, and_true]
  unfold digits Names
  rw [List.forall_mem_append, ← hspells, ← hexponent]
  constructor
  · rintro ⟨magnitude, n, value, hdigits, hvalue, -⟩
    exact ⟨⟨n, hdigits⟩, value, hvalue⟩
  · rintro ⟨⟨n, hdigits⟩, value, hvalue⟩
    exact ⟨_, n, value, hdigits, hvalue, rfl⟩

/-- A numeral names one number at most. -/
theorem Names.unique {numeral : Numeral} {magnitude magnitude' : ℚ} (h : numeral.Names magnitude)
    (h' : numeral.Names magnitude') : magnitude' = magnitude := by
  obtain ⟨d, hd, rfl⟩ := names_iff.1 h
  obtain ⟨d', hd', rfl⟩ := names_iff.1 h'
  rw [hd, Option.some_inj] at hd'
  rw [hd']

/-- What a numeral becomes is the number that it names, rounded. -/
theorem map_toBinary_eq_some_iff {numeral : Numeral} {b : Binary binary64} :
    numeral.decimal?.map (Decimal.toBinary binary64) = some b ↔
      ∃ magnitude, numeral.Names magnitude ∧ b.Rounds numeral.negative magnitude := by
  simp only [Option.map_eq_some_iff, names_iff,
    Decimal.toBinary_eq_iff (show 2 ≤ binary64.precision by decide)]
  constructor
  · rintro ⟨d, hd, hrounds⟩
    exact ⟨d.magnitude, ⟨d, hd, rfl⟩, decimal?_negative hd ▸ hrounds⟩
  · rintro ⟨_, ⟨d, hd, rfl⟩, hrounds⟩
    exact ⟨d, hd, decimal?_negative hd ▸ hrounds⟩

theorem score?_eq_none_of_atFront? {text : List Char} (hnone : atFront? text = none) :
    score? text = none := by
  unfold score?
  rw [hnone]
  rfl

section

variable {numeral : Numeral} {text : List Char} (hfound : atFront? text = some numeral)

include hfound

theorem score?_eq_some_iff_names {x : Finite binary64} :
    score? text = some x ↔ ∃ magnitude, numeral.Names magnitude ∧
      (Binary.finite x : Binary binary64).Rounds numeral.negative magnitude := by
  rw [← map_toBinary_eq_some_iff]
  unfold score?
  rw [hfound, Option.bind_some]
  cases numeral.decimal?.map (Decimal.toBinary binary64) with
  | none => simp
  | some b => cases b <;> simp

theorem score?_eq_none_iff_names :
    score? text = none ↔ (∃ c ∈ numeral.digits, ¬c.isDigit = true) ∨
      ∃ magnitude, numeral.Names magnitude ∧
        (Binary.infinite numeral.negative : Binary binary64).Rounds numeral.negative magnitude := by
  rw [Option.eq_none_iff_forall_ne_some]
  constructor
  · intro hnone
    by_cases hdigits : ∀ c ∈ numeral.digits, c.isDigit = true
    · right
      obtain ⟨magnitude, hnames⟩ := exists_names_iff.2 hdigits
      obtain ⟨d, hd, -⟩ := names_iff.1 hnames
      obtain ⟨magnitude, hnames, hrounds⟩ :=
        map_toBinary_eq_some_iff.1 (Option.map_eq_some_iff.2 ⟨d, hd, rfl⟩)
      refine ⟨magnitude, hnames, ?_⟩
      cases hb : d.toBinary binary64 with
      | finite x =>
        rw [hb] at hrounds
        exact absurd ((score?_eq_some_iff_names hfound).2 ⟨magnitude, hnames, hrounds⟩) (hnone x)
      | infinite negative =>
        rw [hb] at hrounds
        cases hrounds with
        | infinite units hnearest hlimit => exact .infinite units hnearest hlimit
      | nan =>
        rw [hb] at hrounds
        cases hrounds
    · left
      simpa only [not_forall, exists_prop] using hdigits
  · rintro (⟨c, hc, hdigit⟩ | ⟨magnitude, hnames, hinfinite⟩) x hx
    · obtain ⟨magnitude, hnames, -⟩ := (score?_eq_some_iff_names hfound).1 hx
      exact hdigit (exists_names_iff.1 ⟨magnitude, hnames⟩ c hc)
    · obtain ⟨magnitude', hnames', hfinite⟩ := (score?_eq_some_iff_names hfound).1 hx
      rw [hnames.unique hnames'] at hfinite
      cases hinfinite.unique (by decide) hfinite

end

/-- A text has a number just where a numeral stands at its front, the longest one there has no digit
    beyond ASCII, and the double next to what it names is finite, which is the number then. What
    comes after that numeral plays no part. -/
theorem score?_eq_some_iff (text : List Char) :
    (∀ x, score? text = some x ↔
      ∃ numeral run after, StandsAtFront numeral run after text ∧
        (∀ c ∈ numeral.digits, c.isDigit = true) ∧
        ∃ magnitude, numeral.Names magnitude ∧
          (Binary.finite x : Binary binary64).Rounds numeral.negative magnitude) ∧
    (score? text = none ↔
      ∀ numeral run after, StandsAtFront numeral run after text →
        (∃ c ∈ numeral.digits, ¬c.isDigit = true) ∨
          ∃ magnitude, numeral.Names magnitude ∧
            (Binary.infinite numeral.negative : Binary binary64).Rounds
              numeral.negative magnitude) ∧
    ∀ numeral run after, StandsAtFront numeral run after text →
      (∀ other run' after', StandsAtFront other run' after' text →
        other = numeral ∧ run' = run ∧ after' = after) ∧
      score? text = score? run ∧
      ∀ text' after', StandsAtFront numeral run after' text' → score? text' = score? text := by
  have hcongr {numeral : Numeral} {run after run' after' text' : List Char}
      (h : numeral.StandsAtFront run after text) (h' : numeral.StandsAtFront run' after' text') :
      score? text' = score? text := by
    unfold score?
    rw [atFront?_eq_some_iff.2 ⟨run, after, h⟩, atFront?_eq_some_iff.2 ⟨run', after', h'⟩]
  refine ⟨fun x => ⟨fun hx => ?_, ?_⟩, ⟨fun hnone numeral run after hstands => ?_, fun h => ?_⟩,
    fun numeral run after hstands => ⟨fun other run' after' h' => hstands.unique h', ?_, ?_⟩⟩
  · cases hfound : atFront? text with
    | none =>
      rw [score?_eq_none_of_atFront? hfound] at hx
      cases hx
    | some numeral =>
      obtain ⟨run, after, hstands⟩ := atFront?_eq_some_iff.1 hfound
      obtain ⟨magnitude, hnames, hrounds⟩ := (score?_eq_some_iff_names hfound).1 hx
      exact ⟨numeral, run, after, hstands, exists_names_iff.1 ⟨magnitude, hnames⟩,
        magnitude, hnames, hrounds⟩
  · rintro ⟨numeral, run, after, hstands, -, hnames⟩
    exact (score?_eq_some_iff_names (atFront?_eq_some_iff.2 ⟨run, after, hstands⟩)).2 hnames
  · exact (score?_eq_none_iff_names (atFront?_eq_some_iff.2 ⟨run, after, hstands⟩)).1 hnone
  · cases hfound : atFront? text with
    | none => exact score?_eq_none_of_atFront? hfound
    | some numeral =>
      obtain ⟨run, after, hstands⟩ := atFront?_eq_some_iff.1 hfound
      exact (score?_eq_none_iff_names hfound).2 (h numeral run after hstands)
  · exact (hcongr hstands hstands.writes.standsAtFront).symm
  · exact fun text' after' h' => hcongr hstands h'

/-- A letter and a sign without digits are not part of the numeral before them. -/
theorem score?_eq_some_iff_dangling :
    StandsAtFront ⟨false, ['7'], [], none⟩ ['7'] "e+ strokes".toList "7e+ strokes".toList ∧
      score? "7e+ strokes".toList = score? ['7'] := by
  obtain ⟨run, after, hstands⟩ :=
    atFront?_eq_some_iff.1 (show atFront? "7e+ strokes".toList = some ⟨false, ['7'], [], none⟩ by
      decide)
  have hrun : run = ['7'] := by
    obtain ⟨sign, rest, hsign, ⟨digits, exponent, hdigits, hexponent, rfl⟩, rfl⟩ := hstands.writes
    have htext := hstands.text_eq
    cases hexponent with
    | absent =>
      cases hsign with
      | absent =>
        cases hdigits with
        | whole h => rfl
        | point h h' => simp at htext
      | plus => simp at htext
  have hafter : after = "e+ strokes".toList := by
    have htext := hstands.text_eq
    rw [hrun] at htext
    exact (List.cons.inj htext).2.symm
  subst hrun hafter
  exact ⟨hstands, ((score?_eq_some_iff _).2.2 _ _ _ hstands).2.1⟩

example : score? "1.5e2 strokes".toList = some ⟨false, 150 * 2 ^ 1074⟩ := by
  decide +kernel

end Numeral

end Scoreboard
