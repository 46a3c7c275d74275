import Scoreboard.Text.Digit
import Scoreboard.Text.Lower

/-!
# The lower-case form of a character

All that later proofs need to know of the case tables: ASCII is lower-cased as usual, digits are
left alone, and no character beyond ASCII turns into a digit or into an ASCII sign.

## Main definitions

- `Text.LowerImage` — what the lower-case form of a character may look like

## Main statements

- `Text.lowerChars_cons` — a text is lower-cased character by character

## Design notes

The tables are checked range against range, by computation. No proof outside this module opens them.
-/

namespace Scoreboard.Text

/-- What the lower-case form of a character may look like. -/
structure LowerImage (c : Char) (image : List Char) : Prop where
  /-- It is not empty. -/
  ne_nil : image ≠ []
  /-- ASCII is lower-cased as usual. -/
  ascii : c.toNat < 128 → image = [c.toLower]
  /-- Digits of all scripts are left as they are. -/
  digit : isDecimalDigit c = true → image = [c]
  /-- What comes of any other character beyond ASCII is no digit, and no ASCII but two letters. -/
  beyond : 128 ≤ c.toNat → isDecimalDigit c = false →
    ∀ d ∈ image, d = 'i' ∨ d = 'k' ∨ (128 ≤ d.toNat ∧ isDecimalDigit d = false)

/-- A run of cased characters, and its lower-case form, lie apart from the digits of all scripts.
    The lower-case form holds characters only, and lies beyond ASCII unless the run is the Kelvin
    sign alone. -/
def CaseRun.isTame (run : CaseRun) : Bool :=
  let last := run.lower + (run.last - run.first)
  (last < 0xd800 || (0xe000 ≤ run.lower && last < 0x110000)) &&
    (128 ≤ run.lower || (run.first = run.last && run.lower = 'k'.toNat)) &&
    digitZeros.all fun start =>
      (run.last < start || start + 10 ≤ run.first) && (last < start || start + 10 ≤ run.lower)

theorem caseRuns_tame : ∀ run ∈ caseRuns, run.isTame = true := by
  decide +kernel

theorem toNat_ofNat_of_isValidChar {n : Nat} (hn : n.isValidChar) : (Char.ofNat n).toNat = n := by
  rw [Char.ofNat, dif_pos hn]
  rfl

/-- Beyond ASCII, a digit lies in one of the rows of ten. -/
theorem isDecimalDigit_beyond {c : Char} (hc : 128 ≤ c.toNat) :
    isDecimalDigit c = true ↔ ∃ start ∈ digitZeros, start ≤ c.toNat ∧ c.toNat < start + 10 := by
  have hascii : c.isDigit = false := by
    rw [Bool.eq_false_iff]
    intro hdigit
    simp only [Char.isDigit, Bool.and_eq_true, decide_eq_true_eq] at hdigit
    have hle : c.toNat ≤ 57 := hdigit.2
    omega
  have hbeyond : 127 < c.toNat := by omega
  simp [isDecimalDigit, hascii, hbeyond]

/-- What holds of the first 128 code points holds of every ASCII character. -/
theorem forall_ascii {holds : Char → Prop} (h : ∀ n : Fin 128, holds (Char.ofNat n)) {c : Char}
    (hc : c.toNat < 128) : holds c := by
  have hn := h ⟨c.toNat, hc⟩
  rwa [show Char.ofNat c.toNat = c from Char.ofNat_toNat c] at hn

/-- Beyond ASCII, the lower case of the standard library leaves a character alone. -/
theorem toLower_of_beyond {c : Char} (hc : ¬c.toNat < 128) : c.toLower = c := by
  refine dif_neg fun hupper => hc ?_
  exact Nat.lt_of_le_of_lt (UInt32.le_iff_toNat_le.1 hupper.2) (by decide)

theorem lowerChar_ascii {c : Char} (hc : c.toNat < 128) : lowerChar c = [c.toLower] := by
  apply forall_ascii _ hc
  decide

section

variable {run : CaseRun} (hrun : run ∈ caseRuns)

include hrun

/-- Where a run and its lower-case form lie. -/
theorem CaseRun.tame :
    ((run.lower + (run.last - run.first) < 0xd800 ∨
        0xe000 ≤ run.lower ∧ run.lower + (run.last - run.first) < 0x110000) ∧
      (128 ≤ run.lower ∨ run.first = run.last ∧ run.lower = 'k'.toNat)) ∧
      ∀ start ∈ digitZeros, (run.last < start ∨ start + 10 ≤ run.first) ∧
        (run.lower + (run.last - run.first) < start ∨ start + 10 ≤ run.lower) := by
  have htame := caseRuns_tame run hrun
  simpa only [isTame, Bool.and_eq_true, List.all_eq_true, Bool.or_eq_true, decide_eq_true_eq]
    using htame

theorem CaseRun.lower?_digit {n start : Nat} (hstart : start ∈ digitZeros) (hle : start ≤ n)
    (hlt : n < start + 10) : run.lower? n = none := by
  obtain ⟨-, hdigits⟩ := tame hrun
  have hapart := (hdigits start hstart).1
  unfold lower?
  rw [if_neg]
  simp only [Bool.and_eq_true, decide_eq_true_eq]
  omega

/-- What a run gives is a character beyond ASCII and no digit, unless it is the letter k. -/
theorem CaseRun.lower?_tame {n m : Nat} (h : run.lower? n = some m) :
    m = 'k'.toNat ∨
      (m.isValidChar ∧ 128 ≤ m ∧ ∀ start ∈ digitZeros, m < start ∨ start + 10 ≤ m) := by
  obtain ⟨⟨hvalid, hbounds⟩, hdigits⟩ := tame hrun
  unfold lower? at h
  split at h
  · next hin =>
    cases h
    simp only [Bool.and_eq_true, decide_eq_true_eq] at hin
    -- What is known of the ends of the run holds of everything between them.
    rcases hbounds with hlower | ⟨hsingle, hk⟩
    · refine .inr ⟨?_, by omega, fun start hstart => ?_⟩
      · unfold Nat.isValidChar
        omega
      · have hapart := (hdigits start hstart).2
        omega
    · exact .inl (by omega)
  · cases h

end

theorem lowerChar_digit_beyond {c : Char} (hc : 128 ≤ c.toNat) (hdigit : isDecimalDigit c = true) :
    lowerChar c = [c] := by
  obtain ⟨start, hstart, hle, hlt⟩ := (isDecimalDigit_beyond hc).1 hdigit
  -- No run holds a digit, and neither is the dotted capital I one.
  have hnone : (caseRuns.findSome? fun run => run.lower? c.toNat) = none := by
    rw [List.findSome?_eq_none_iff]
    intro run hrun
    exact CaseRun.lower?_digit hrun hstart hle hlt
  have hdotted : c.toNat ≠ 0x130 := by
    have hall : ∀ start ∈ digitZeros, 0x130 < start ∨ start + 10 ≤ 0x130 := by decide
    have hapart := hall start hstart
    omega
  rw [lowerChar, if_neg (by omega), if_neg hdotted, hnone]

/-- What comes of another character beyond ASCII is no digit, and no ASCII but two letters. -/
theorem lowerChar_beyond {c d : Char} (hc : 128 ≤ c.toNat) (hdigit : isDecimalDigit c = false)
    (hd : d ∈ lowerChar c) : d = 'i' ∨ d = 'k' ∨ (128 ≤ d.toNat ∧ isDecimalDigit d = false) := by
  rw [lowerChar, if_neg (by omega)] at hd
  -- The dotted capital I becomes two characters, of which the second is a combining dot.
  split at hd
  · simp only [List.mem_cons, List.not_mem_nil, or_false] at hd
    rcases hd with rfl | rfl
    · exact .inl rfl
    · exact .inr (.inr (by decide))
  · split at hd
    · next m hm =>
      obtain ⟨run, hrun, hlower⟩ := List.exists_of_findSome?_eq_some hm
      rw [List.mem_singleton.1 hd]
      rcases CaseRun.lower?_tame hrun hlower with rfl | ⟨hvalid, hbeyond, hapart⟩
      · exact .inr (.inl rfl)
      · have hm : (Char.ofNat m).toNat = m := toNat_ofNat_of_isValidChar hvalid
        refine .inr (.inr ⟨by omega, ?_⟩)
        rw [Bool.eq_false_iff]
        intro hmdigit
        obtain ⟨start, hstart, hle, hlt⟩ := (isDecimalDigit_beyond (by omega)).1 hmdigit
        have hout := hapart start hstart
        omega
    · rw [List.mem_singleton.1 hd]
      exact .inr (.inr ⟨hc, hdigit⟩)

theorem lowerChar_ne_nil (c : Char) : lowerChar c ≠ [] := by
  unfold lowerChar
  split
  · simp
  · split
    · simp
    · split <;> simp

theorem lowerChar_digit_ascii {c : Char} (hc : c.toNat < 128) (hdigit : isDecimalDigit c = true) :
    lowerChar c = [c] := by
  have hkeep : isDecimalDigit c = true → lowerChar c = [c] := by
    apply forall_ascii _ hc
    decide
  exact hkeep hdigit

/-- The lower-case form of a character, wherever its form does not depend on the place. -/
theorem lowerImage_lowerChar (c : Char) : LowerImage c (lowerChar c) where
  ne_nil := lowerChar_ne_nil c
  ascii := lowerChar_ascii
  digit hdigit := by
    by_cases hc : 128 ≤ c.toNat
    · exact lowerChar_digit_beyond hc hdigit
    · exact lowerChar_digit_ascii (by omega) hdigit
  beyond hc hdigit d hd := lowerChar_beyond hc hdigit hd

theorem lowerImage_sigma {c : Char} (hc : c.toNat = 0x3a3) (final : Bool) :
    LowerImage c [if final then Char.ofNat 0x3c2 else Char.ofNat 0x3c3] where
  ne_nil := List.cons_ne_nil _ _
  ascii hascii := by omega
  digit hdigit := by
    have hsigma : c = Char.ofNat 0x3a3 := by rw [← hc, Char.ofNat_toNat]
    rw [hsigma] at hdigit
    exact absurd hdigit (by decide)
  beyond _ _ d hd := by
    rw [List.mem_singleton.1 hd]
    cases final with
    | true => exact .inr (.inr (by decide))
    | false => exact .inr (.inr (by decide))

/-- A text is lower-cased character by character. -/
theorem lowerChars_cons (before cs : List Char) (c : Char) :
    ∃ image, LowerImage c image ∧
      lowerChars before (c :: cs) = image ++ lowerChars (c :: before) cs := by
  by_cases hsigma : c.toNat = 0x3a3
  · refine ⟨_, lowerImage_sigma hsigma (endsWord before cs), ?_⟩
    rw [lowerChars]
    simp only [hsigma, if_true]
  · refine ⟨lowerChar c, lowerImage_lowerChar c, ?_⟩
    rw [lowerChars]
    simp only [hsigma, if_false]

end Scoreboard.Text
