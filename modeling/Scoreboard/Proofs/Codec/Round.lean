import Scoreboard.Codec.Basic
import Scoreboard.Proofs.Codec.Record
import Scoreboard.Proofs.Text.Digit
import Scoreboard.Proofs.Text.Spelling

/-!
# Spellings of a round

Data name a round by its number or by a text. All spellings of a number are one and the same round,
and nothing else is a round.

## Main definitions

- `RoundId.Spells` — the values that name the round of a number

## Main statements

- `RoundId.numberOf_eq_ok_iff` — the texts of digits that are read, behind a plus sign or none
- `RoundId.ofJson_eq_ok_iff` — a value is a round if and only if it spells the number of that round
-/

namespace Scoreboard

namespace RoundId

/-- The values that name the round of a number: the number itself, or a text of its digits, behind
    a plus sign or none, with white space around them. -/
inductive Spells (n : Nat) : Json → Prop
  | number : Spells n (.integer n)
  | text {plus digits : List Char} {s : String} (hplus : plus = [] ∨ plus = ['+'])
      (hne : digits ≠ []) (hdigits : Text.Spells digits n)
      (hs : Text.Padded (plus ++ digits) s.toList) : Spells n (.text s)

/-- Digits are read until the number is too large, and it never gets smaller. -/
theorem ofDigitsFrom_eq_ok_iff {cs : List Char} {n m : Nat} (hn : n < UInt32.size) :
    ofDigitsFrom n cs = .ok m ↔ Text.natOfDigitsFrom? n cs = some m ∧ m < UInt32.size := by
  induction cs generalizing n with
  | nil =>
    simp only [ofDigitsFrom, Text.natOfDigitsFrom?, Except.ok.injEq, Option.some.injEq]
    constructor
    · rintro rfl
      exact ⟨rfl, hn⟩
    · exact And.left
  | cons c cs ih =>
    simp only [ofDigitsFrom, Text.natOfDigitsFrom?]
    cases Text.digitValue? c with
    | none => simp
    | some d =>
      simp only [Option.bind_some]
      by_cases hlt : 10 * n + d < UInt32.size
      · rw [if_pos hlt]
        exact ih hlt
      · rw [if_neg hlt]
        constructor
        · intro hrefused
          cases hrefused
        · rintro ⟨hvalue, hm⟩
          have hle := Text.le_of_natOfDigitsFrom? hvalue
          omega

theorem ofDigits_eq_ok_iff {digits : List Char} {n : Nat} :
    ofDigitsFrom 0 digits = .ok n ↔ Text.Spells digits n ∧ n < UInt32.size := by
  rw [ofDigitsFrom_eq_ok_iff (by decide), ← Text.natOfDigits?_eq_some_iff, Text.natOfDigits?]

theorem numberOf_eq_ok_iff {cs : List Char} {n : Nat} :
    numberOf cs = .ok n ↔ n < UInt32.size ∧ ∃ plus digits, (plus = [] ∨ plus = ['+']) ∧
      digits ≠ [] ∧ Text.Spells digits n ∧ cs = plus ++ digits := by
  constructor
  · intro hnumber
    unfold numberOf at hnumber
    split at hnumber
    · cases hnumber
    · cases hnumber
    · next cs hne =>
      obtain ⟨hdigits, hn⟩ := ofDigits_eq_ok_iff.1 hnumber
      exact ⟨hn, ['+'], cs, .inr rfl, hne, hdigits, rfl⟩
    · next hne _ _ =>
      obtain ⟨hdigits, hn⟩ := ofDigits_eq_ok_iff.1 hnumber
      exact ⟨hn, [], cs, .inl rfl, hne, hdigits, rfl⟩
  · rintro ⟨hn, plus, digits, hplus, hne, hdigits, rfl⟩
    have hvalue := ofDigits_eq_ok_iff.2 ⟨hdigits, hn⟩
    obtain ⟨c, cs, rfl⟩ := List.exists_cons_of_ne_nil hne
    obtain rfl | rfl := hplus
    · have hc : c ≠ '+' := by
        rintro rfl
        exact absurd (hdigits.1 '+' List.mem_cons_self) (by decide)
      rw [List.nil_append, numberOf, hvalue]
      · simp
      · simp [hc]
      · simp [hc]
    · exact hvalue

theorem mk_ofNat_eq_iff {n : Nat} (hn : n < UInt32.size) {round : RoundId} :
    (⟨UInt32.ofNat n⟩ : RoundId) = round ↔ round.number.toNat = n := by
  obtain ⟨number⟩ := round
  rw [RoundId.mk.injEq, ← UInt32.toNat_inj, UInt32.toNat_ofNat_of_lt' hn]
  exact eq_comm

theorem spells_integer_iff {n : Nat} {value : Int} : Spells n (.integer value) ↔ value = n := by
  constructor
  · rintro ⟨⟩
    rfl
  · rintro rfl
    exact .number

/-- No digit and no sign is white space, so a text is trimmed to them. -/
theorem spells_text_iff {n : Nat} {s : String} :
    Spells n (.text s) ↔ ∃ plus digits, (plus = [] ∨ plus = ['+']) ∧ digits ≠ [] ∧
      Text.Spells digits n ∧ Text.trimChars s.toList = plus ++ digits := by
  constructor
  · rintro (_ | ⟨hplus, hne, hdigits, hs⟩)
    refine ⟨_, _, hplus, hne, hdigits, ?_⟩
    rw [hs.trimChars_eq]
    refine Text.trimChars_of_forall fun c hc => ?_
    obtain hc | hc := List.mem_append.1 hc
    · obtain rfl | rfl := hplus
      · cases hc
      · rw [List.mem_singleton.1 hc]
        rfl
    · exact Text.isBlank_of_isDigit (hdigits.1 c hc)
  · rintro ⟨plus, digits, hplus, hne, hdigits, hs⟩
    exact .text hplus hne hdigits (hs ▸ Text.padded_trimChars s.toList)

theorem ofText_eq_ok_iff {s : String} {round : RoundId} :
    ofText s = .ok round ↔ Spells round.number.toNat (.text s) := by
  have hround := round.number.toNat_lt
  rw [spells_text_iff]
  unfold ofText
  constructor
  · intro htext
    split at htext
    · next n hnumber =>
      obtain ⟨hn, hspelled⟩ := numberOf_eq_ok_iff.1 hnumber
      rw [(mk_ofNat_eq_iff hn).1 (Except.ok.inj htext)]
      exact hspelled
    · cases htext
  · intro hspelled
    rw [numberOf_eq_ok_iff.2 ⟨hround, hspelled⟩]
    exact congrArg Except.ok ((mk_ofNat_eq_iff hround).2 rfl)

/-- A value is a round if and only if it spells the number of that round. -/
theorem ofJson_eq_ok_iff {json : Json} {round : RoundId} :
    ofJson json = .ok round ↔ Spells round.number.toNat json := by
  have hround := round.number.toNat_lt
  cases json with
  | integer value =>
    rw [spells_integer_iff, ofJson]
    split
    · next hholds =>
      obtain ⟨hleast, hbound⟩ := (IntKind.holds_iff .uint32).1 hholds
      simp only [IntKind.least, IntKind.bound] at hleast hbound
      have hvalue : value.toNat < UInt32.size := by
        simp only [UInt32.size]
        omega
      rw [Except.ok.injEq, mk_ofNat_eq_iff hvalue]
      omega
    · next hholds =>
      rw [IntKind.holds_iff] at hholds
      simp only [IntKind.least, IntKind.bound] at hholds
      constructor
      · nofun
      · omega
  | text s => exact ofText_eq_ok_iff
  | null | bool _ | real _ | array _ | object _ =>
    constructor
    · nofun
    · nofun

end RoundId

end Scoreboard
