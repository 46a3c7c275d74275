import Mathlib.Data.List.TakeWhile
import Scoreboard.Json.Printer
import Scoreboard.Json.Reader

/-!
# Texts and whole numbers as they are written

A quoted text ends at its closing quote, so it is read back whatever follows. A number ends where
its digits do, so what follows must not go on with it.

## Main definitions

- `Json.Ends` — what follows a value in a list, in an object or at the end

## Main statements

- `Json.readText_printed` — a quoted text is read up to its closing quote
- `Json.readNumber_toDigits` — a whole number is read to the end of its digits
- `Text.natOfDigits?_toDigits` — decimal digits spell the number they are made of
-/

namespace Scoreboard

namespace Text

theorem natOfDigitsFrom?_append (n : Nat) (cs more : List Char) :
    natOfDigitsFrom? n (cs ++ more) =
      (natOfDigitsFrom? n cs).bind fun m => natOfDigitsFrom? m more := by
  induction cs generalizing n with
  | nil => rfl
  | cons c rest ih =>
    show (digitValue? c).bind _ = ((digitValue? c).bind _).bind _
    cases digitValue? c with
    | none => rfl
    | some d => exact ih (10 * n + d)

theorem digitValue?_digitChar {d : Nat} (h : d < 10) : digitValue? d.digitChar = some d := by
  decide +revert

/-- The decimal digits of a number spell it. -/
theorem natOfDigits?_toDigits (n : Nat) : natOfDigits? (Nat.toDigits 10 n) = some n := by
  induction n using Nat.strongRecOn with
  | ind n ih =>
    unfold natOfDigits?
    by_cases hsmall : n < 10
    · rw [Nat.toDigits_of_lt_base hsmall]
      simp [natOfDigitsFrom?, digitValue?_digitChar hsmall]
    · have hlast : n % 10 < 10 := Nat.mod_lt n (by decide)
      have hfront : natOfDigitsFrom? 0 (Nat.toDigits 10 (n / 10)) = some (n / 10) :=
        ih (n / 10) (by omega)
      rw [Nat.toDigits_of_base_le (by decide) (Nat.le_of_not_lt hsmall), natOfDigitsFrom?_append,
        hfront]
      simp only [Option.bind_some, natOfDigitsFrom?, digitValue?_digitChar hlast]
      exact congrArg some (Nat.div_add_mod n 10)

/-- Only zero is written with a zero at the front. -/
theorem eq_zero_of_head?_toDigits {n : Nat} (h : (Nat.toDigits 10 n).head? = some '0') :
    n = 0 := by
  induction n using Nat.strongRecOn with
  | ind n ih =>
    by_cases hsmall : n < 10
    · rw [Nat.toDigits_of_lt_base hsmall] at h
      simpa using h
    · rw [Nat.toDigits_of_base_le (by decide) (Nat.le_of_not_lt hsmall),
        List.head?_append, Option.or_of_isSome (by simp [Nat.toDigits_ne_nil])] at h
      have hfront := ih (n / 10) (by omega) h
      omega

end Text

namespace Json

theorem length_le_utf8Length (cs : List Char) : cs.length ≤ utf8Length cs := by
  unfold utf8Length
  have hfold (length : Nat) :
      length + cs.length ≤ cs.foldl (fun length c => length + c.utf8Size) length := by
    induction cs generalizing length with
    | nil => exact Nat.le_refl length
    | cons c rest ih =>
      have hsize := c.utf8Size_pos
      have hrest := ih (length + c.utf8Size)
      rw [List.foldl_cons, List.length_cons]
      omega
  simpa using hfold 0

section

variable {n : Nat} (rest : List Char)

/-- A control character is written with two zeros and two more digits. -/
theorem hexDigits_control (h : n < 32) :
    (if n < 16 then ['0'] else []) ++ Text.hexDigits n =
        [(n / 16).digitChar, (n % 16).digitChar] ∧
      hexValue? (n / 16).digitChar = some (n / 16) ∧
      hexValue? (n % 16).digitChar = some (n % 16) := by
  decide +revert

theorem readHex_escaped (h : n < 32) :
    readHex ('0' :: '0' :: ((if n < 16 then ['0'] else []) ++ Text.hexDigits n ++ rest)) =
      .ok (n, rest) := by
  obtain ⟨hdigits, hhigh, hlow⟩ := hexDigits_control h
  have hlength : ¬utf8Length (List.take 4
      ('0' :: '0' :: (n / 16).digitChar :: (n % 16).digitChar :: rest)) < 4 :=
    Nat.not_lt.2 (length_le_utf8Length ['0', '0', (n / 16).digitChar, (n % 16).digitChar])
  have hzero : hexValue? '0' = some 0 := rfl
  rw [hdigits, List.cons_append, List.cons_append, List.nil_append]
  unfold readHex
  rw [if_neg hlength]
  simp only [hzero, hhigh, hlow]
  have hvalue : ((0 * 16 + 0) * 16 + n / 16) * 16 + n % 16 = n := by omega
  rw [hvalue]

end

/-- What stands for one character between quotes is read as this character. -/
theorem readTextFrom_escaped (steps : Nat) (before : List Char) (c : Char) (rest : List Char) :
    readTextFrom (steps + 1) before (escaped c ++ rest) =
      readTextFrom steps (c :: before) rest := by
  have hchar {n : Nat} (h : c.toNat = n) : Char.ofNat n = c := by
    rw [← h, Char.ofNat_toNat]
  unfold escaped
  split
  · next h => subst h; rfl
  split
  · next h => subst h; rfl
  split
  · next h => rw [← hchar h]; rfl
  split
  · next h => rw [← hchar h]; rfl
  split
  · next h => rw [← hchar h]; rfl
  split
  · next h => rw [← hchar h]; rfl
  split
  · next h => rw [← hchar h]; rfl
  split
  · next hcontrol =>
    have hhigh : isHighHalf c.toNat = false := by simp [isHighHalf]; omega
    have hlow : isLowHalf c.toNat = false := by simp [isLowHalf]; omega
    have hescape : readEscape ('u' :: '0' :: '0' :: ((if c.toNat < 16 then ['0'] else []) ++
        Text.hexDigits c.toNat ++ rest)) = .ok (c, rest) := by
      simp only [readEscape, readHex_escaped rest hcontrol, bind, Except.bind, hlow, hhigh]
      simp [pure, Except.pure, Char.ofNat_toNat]
    simp only [List.cons_append, List.append_assoc, List.nil_append] at hescape ⊢
    simp [readTextFrom, hescape, bind, Except.bind]
  · next hquote hslash _ _ _ _ _ hplain =>
    simp [readTextFrom, hquote, hslash, hplain]

theorem readTextFrom_printed {steps : Nat} (before cs rest : List Char) (h : cs.length < steps) :
    readTextFrom steps before (cs.flatMap escaped ++ '"' :: rest) =
      .ok (String.ofList (before.reverse ++ cs), rest) := by
  induction cs generalizing steps before with
  | nil =>
    obtain ⟨steps, rfl⟩ := Nat.exists_eq_succ_of_ne_zero (Nat.ne_of_gt h)
    simp [readTextFrom]
  | cons c cs ih =>
    obtain ⟨steps, rfl⟩ := Nat.exists_eq_succ_of_ne_zero (Nat.ne_of_gt (Nat.zero_lt_of_lt h))
    rw [List.flatMap_cons, List.append_assoc, readTextFrom_escaped,
      ih (c :: before) (Nat.lt_of_succ_lt_succ h)]
    simp

theorem length_le_flatMap_escaped (cs : List Char) :
    cs.length ≤ (cs.flatMap escaped).length := by
  induction cs with
  | nil => exact Nat.le_refl 0
  | cons c cs ih =>
    have hpos : 0 < (escaped c).length := by
      unfold escaped
      repeat' split
      all_goals simp
    rw [List.flatMap_cons, List.length_append, List.length_cons]
    omega

/-- A quoted text is read up to its closing quote. -/
theorem readText_printed (s : String) (rest : List Char) :
    readText (s.toList.flatMap escaped ++ '"' :: rest) = .ok (s, rest) := by
  unfold readText
  rw [readTextFrom_printed [] s.toList rest]
  · simp
  · have hle := length_le_flatMap_escaped s.toList
    rw [List.length_append]
    omega

/-- What follows a value: nothing, the next item or member, or the end of the list or object. -/
def Ends (rest : List Char) : Prop :=
  ∀ c ∈ rest.head?, c = ',' ∨ c = ']' ∨ c = '\x7d'

section

variable {rest : List Char}

theorem ends_nil : Ends [] := nofun

theorem ends_cons {c : Char} (h : c = ',' ∨ c = ']' ∨ c = '\x7d') (rest : List Char) :
    Ends (c :: rest) := by
  simpa [Ends] using h

theorem Ends.isDigit_eq_false (h : Ends rest) : rest.head?.any Char.isDigit = false := by
  cases rest with
  | nil => rfl
  | cons c rest =>
    obtain rfl | rfl | rfl : c = ',' ∨ c = ']' ∨ c = '\x7d' := h c rfl
    all_goals rfl

theorem Ends.takeWhile_append (h : Ends rest) {digits : List Char}
    (hdigits : ∀ c ∈ digits, c.isDigit = true) :
    (digits ++ rest).takeWhile Char.isDigit = digits ∧
      (digits ++ rest).dropWhile Char.isDigit = rest := by
  rw [List.takeWhile_append_of_pos hdigits, List.dropWhile_append_of_pos hdigits]
  cases rest with
  | nil => simp
  | cons c rest =>
    have hc : c.isDigit = false := h.isDigit_eq_false
    simp [hc]

theorem Ends.readFraction (h : Ends rest) (negative : Bool) (whole : List Char) :
    readFraction negative whole rest = wholeOf negative whole rest := by
  cases rest with
  | nil => rfl
  | cons c rest =>
    obtain rfl | rfl | rfl : c = ',' ∨ c = ']' ∨ c = '\x7d' := h c rfl
    all_goals simp [Json.readFraction, isExponentLetter]

/-- The digits of a whole number are read to their end. -/
theorem readNumber_toDigits (h : Ends rest) (negative : Bool) (n : Nat) :
    readNumber negative (Nat.toDigits 10 n ++ rest) =
      wholeOf negative (Nat.toDigits 10 n) rest := by
  have hdigits : ∀ c ∈ Nat.toDigits 10 n, c.isDigit = true := fun c hc =>
    Nat.isDigit_of_mem_toDigits (by decide) (by decide) hc
  by_cases hzero : n = 0
  · subst hzero
    show readNumber negative ('0' :: rest) = wholeOf negative ['0'] rest
    rw [readNumber, if_pos rfl, h.isDigit_eq_false, if_neg Bool.false_ne_true, h.readFraction]
  · cases hcs : Nat.toDigits 10 n with
    | nil => exact absurd hcs Nat.toDigits_ne_nil
    | cons c cs =>
      rw [hcs] at hdigits
      obtain ⟨hc, hrest⟩ := List.forall_mem_cons.1 hdigits
      obtain ⟨htake, hdrop⟩ := h.takeWhile_append hrest
      have hne : c ≠ '0' := by
        rintro rfl
        exact hzero (Text.eq_zero_of_head?_toDigits (by rw [hcs]; rfl))
      rw [List.cons_append, readNumber, if_neg hne, if_pos hc, htake, hdrop, h.readFraction]

end

end Json

end Scoreboard
