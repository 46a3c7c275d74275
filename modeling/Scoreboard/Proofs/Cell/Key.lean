import Scoreboard.Cell.Value
import Scoreboard.Proofs.Text.Lower

/-!
# A text and its key

A text is read for a number in the case it is written in, but ordered against plain text by its
lower-case form. Both name the same number, so the key of a text decides whether it is a number and
which one.

## Main definitions

- `Numeral.LowerFront` — how the front of a text and of its lower-case form agree

## Main statements

- `Numeral.score?_lowerChars` — a text and its lower-case form name the same number
- `CellValue.read_eq_ofKey` — the value of a text that is no moment, from its key alone
-/

namespace Scoreboard

namespace Numeral

/-- A character of a numeral that has no case: a digit of any script, a sign or the point. -/
def isMark (c : Char) : Bool :=
  Text.isDecimalDigit c || c = '+' || c = '-' || c = '.'

/-- A character that is in no numeral. -/
def isForeign (c : Char) : Bool :=
  !isMark c && c ≠ 'e' && c ≠ 'E'

/-- How the front of a text that follows `before` and of its lower-case form agree, as far as a
    numeral could go on. -/
inductive LowerFront (before : List Char) : List Char → List Char → Prop where
  | nil : LowerFront before [] []
  /-- Both have the same mark. -/
  | mark (c : Char) (cs : List Char) (hc : isMark c = true) :
      LowerFront before (c :: cs) (c :: Text.lowerChars (c :: before) cs)
  /-- Both have the letter of an exponent. -/
  | exponent (c : Char) (cs : List Char) (hc : c = 'e' ∨ c = 'E') :
      LowerFront before (c :: cs) ('e' :: Text.lowerChars (c :: before) cs)
  /-- A numeral ends in both. -/
  | foreign (c d : Char) (cs ds : List Char) (hc : isForeign c = true) (hd : isForeign d = true) :
      LowerFront before (c :: cs) (d :: ds)

theorem isForeign_of_beyond {c : Char} (hc : 128 ≤ c.toNat)
    (hdigit : Text.isDecimalDigit c = false) : isForeign c = true := by
  have hne (d : Char) (hd : d.toNat < 128) : c ≠ d := by
    rintro rfl
    omega
  simp [isForeign, isMark, hdigit, hne '+' (by decide), hne '-' (by decide), hne '.' (by decide),
    hne 'e' (by decide), hne 'E' (by decide)]

/-- In ASCII, lower-casing keeps the parts of a numeral apart from all else. -/
theorem toLower_ascii {c : Char} (hc : c.toNat < 128) :
    (isMark c = true → c.toLower = c) ∧ (c = 'e' ∨ c = 'E' → c.toLower = 'e') ∧
      (isForeign c = true → isForeign c.toLower = true) := by
  apply Text.forall_ascii _ hc
  decide

/-- The front of a text agrees with that of its lower-case form. -/
theorem lowerFront (before cs : List Char) :
    LowerFront before cs (Text.lowerChars before cs) := by
  cases cs with
  | nil => exact .nil
  | cons c cs =>
    obtain ⟨image, himage, hlower⟩ := Text.lowerChars_cons before cs c
    rw [hlower]
    -- ASCII is decided character by character. Beyond it only digits can be in a numeral.
    by_cases hc : c.toNat < 128
    · obtain ⟨hmark, hexponent, hforeign⟩ := toLower_ascii hc
      rw [himage.ascii hc]
      by_cases hm : isMark c = true
      · rw [hmark hm]
        exact .mark c cs hm
      · by_cases he : c = 'e' ∨ c = 'E'
        · rw [hexponent he]
          exact .exponent c cs he
        · have hf : isForeign c = true := by
            rw [not_or] at he
            simp [isForeign, hm, he.1, he.2]
          exact .foreign c _ cs _ hf (hforeign hf)
    · have hbeyond : 128 ≤ c.toNat := by omega
      cases hdigit : Text.isDecimalDigit c with
      | true =>
        rw [himage.digit hdigit]
        exact .mark c cs (by simp [isMark, hdigit])
      | false =>
        obtain ⟨d, ds, rfl⟩ := List.exists_cons_of_ne_nil himage.ne_nil
        have hd : isForeign d = true := by
          rcases himage.beyond hbeyond hdigit d List.mem_cons_self with rfl | rfl | ⟨hd, hnot⟩
          · decide
          · decide
          · exact isForeign_of_beyond hd hnot
        exact .foreign c d cs _ (isForeign_of_beyond hbeyond hdigit) hd

theorem isDecimalDigit_exponent {c : Char} (hc : c = 'e' ∨ c = 'E') :
    Text.isDecimalDigit c = false := by
  rcases hc with rfl | rfl <;> decide

theorem isForeign_iff {c : Char} : isForeign c = true ↔
    Text.isDecimalDigit c = false ∧ c ≠ '+' ∧ c ≠ '-' ∧ c ≠ '.' ∧ c ≠ 'e' ∧ c ≠ 'E' := by
  simp [isForeign, isMark, and_assoc]

/-- The digits at the front of a text and of its lower-case form are the same, and so are, but for
    case, the characters after them. -/
theorem digits_lowerChars (before cs : List Char) :
    (Text.lowerChars before cs).takeWhile Text.isDecimalDigit = cs.takeWhile Text.isDecimalDigit ∧
      ∃ before', (Text.lowerChars before cs).dropWhile Text.isDecimalDigit =
        Text.lowerChars before' (cs.dropWhile Text.isDecimalDigit) := by
  induction cs generalizing before with
  | nil => exact ⟨rfl, before, rfl⟩
  | cons c cs ih =>
    -- A text whose first character is no digit is kept whole.
    have hstop (d : Char) (ds : List Char) (hc : Text.isDecimalDigit c = false)
        (hd : Text.isDecimalDigit d = false) (hlower : Text.lowerChars before (c :: cs) = d :: ds) :
        (d :: ds).takeWhile Text.isDecimalDigit = (c :: cs).takeWhile Text.isDecimalDigit ∧
          ∃ before', (d :: ds).dropWhile Text.isDecimalDigit =
            Text.lowerChars before' ((c :: cs).dropWhile Text.isDecimalDigit) := by
      simp only [List.takeWhile_cons, List.dropWhile_cons, hc, hd, Bool.false_eq_true, if_false]
      exact ⟨trivial, before, hlower.symm⟩
    have hfront := lowerFront before (c :: cs)
    generalize hlower : Text.lowerChars before (c :: cs) = lowered at hfront ⊢
    cases hfront with
    | mark _ _ hc =>
      cases hdigit : Text.isDecimalDigit c with
      | false => exact hstop _ _ hdigit hdigit hlower
      | true =>
        obtain ⟨htake, before', hdrop⟩ := ih (c :: before)
        simp only [List.takeWhile_cons, List.dropWhile_cons, hdigit, if_true, htake]
        exact ⟨trivial, before', hdrop⟩
    | exponent _ _ hc =>
      exact hstop _ _ (isDecimalDigit_exponent hc) (isDecimalDigit_exponent (.inl rfl)) hlower
    | foreign _ d _ ds hc hd =>
      exact hstop _ _ (isForeign_iff.1 hc).1 (isForeign_iff.1 hd).1 hlower

theorem sign_of_ne {c : Char} (cs : List Char) (hminus : c ≠ '-') (hplus : c ≠ '+') :
    sign (c :: cs) = (false, c :: cs) := by
  unfold sign
  split
  · next h => exact absurd (List.cons.inj h).1 hminus
  · next h => exact absurd (List.cons.inj h).1 hplus
  · rfl

/-- A text and its lower-case form have the same sign, and agree after it but for case. -/
theorem sign_lowerChars (before cs : List Char) :
    ∃ before', sign (Text.lowerChars before cs) =
      ((sign cs).1, Text.lowerChars before' (sign cs).2) := by
  cases cs with
  | nil => exact ⟨before, rfl⟩
  | cons c cs =>
    -- A sign is a mark, so it stays what it is, and nothing else becomes one.
    by_cases hminus : c = '-'
    · subst hminus
      exact ⟨'-' :: before, rfl⟩
    · by_cases hplus : c = '+'
      · subst hplus
        exact ⟨'+' :: before, rfl⟩
      · refine ⟨before, ?_⟩
        rw [sign_of_ne cs hminus hplus]
        have hfront := lowerFront before (c :: cs)
        generalize Text.lowerChars before (c :: cs) = lowered at hfront ⊢
        cases hfront with
        | mark _ _ hc => exact sign_of_ne _ hminus hplus
        | exponent _ _ hc => exact sign_of_ne _ (by decide) (by decide)
        | foreign _ d _ ds hc hd =>
          obtain ⟨-, hdplus, hdminus, -⟩ := isForeign_iff.1 hd
          exact sign_of_ne _ hdminus hdplus

theorem exponent?_lowerChars (before cs : List Char) :
    exponent? (Text.lowerChars before cs) = exponent? cs := by
  have hnone (c : Char) (cs : List Char) (he : c ≠ 'e') (hE : c ≠ 'E') :
      exponent? (c :: cs) = none := by
    simp [exponent?, he, hE]
  have hfront := lowerFront before cs
  generalize Text.lowerChars before cs = lowered at hfront ⊢
  cases hfront with
  | nil => rfl
  | mark c cs hc =>
    have hne : c ≠ 'e' ∧ c ≠ 'E' := by
      constructor <;> rintro rfl <;> exact absurd hc (by decide)
    rw [hnone _ _ hne.1 hne.2, hnone _ _ hne.1 hne.2]
  | exponent c cs hc =>
    obtain ⟨before', hsign⟩ := sign_lowerChars (c :: before) cs
    have hletter : (decide (c = 'e') || decide (c = 'E')) = true := by simpa using hc
    simp only [exponent?, hletter, hsign, (digits_lowerChars before' _).1, if_true]
    rfl
  | foreign c d cs ds hc hd =>
    obtain ⟨-, -, -, -, hc, hC⟩ := isForeign_iff.1 hc
    obtain ⟨-, -, -, -, hd, hD⟩ := isForeign_iff.1 hd
    rw [hnone _ _ hc hC, hnone _ _ hd hD]

/-- The numeral at the front of a text where no point follows the first digits. -/
theorem unsignedAtFront?_of_ne_point (negative : Bool) {cs : List Char}
    (h : (cs.dropWhile Text.isDecimalDigit).head? ≠ some '.') :
    unsignedAtFront? negative cs =
      match cs.takeWhile Text.isDecimalDigit with
      | [] => none
      | d :: ds => some ⟨negative, d :: ds, [], exponent? (cs.dropWhile Text.isDecimalDigit)⟩ := by
  unfold unsignedAtFront?
  generalize cs.dropWhile Text.isDecimalDigit = rest at h ⊢
  generalize cs.takeWhile Text.isDecimalDigit = whole
  split
  · exact absurd rfl h
  · rfl
  · exact absurd rfl h
  · rfl

/-- The numeral at the front of a text where a point follows the first digits. -/
theorem unsignedAtFront?_of_point (negative : Bool) {cs rest : List Char}
    (h : cs.dropWhile Text.isDecimalDigit = '.' :: rest) :
    unsignedAtFront? negative cs =
      match cs.takeWhile Text.isDecimalDigit, rest.takeWhile Text.isDecimalDigit with
      | [], [] => none
      | whole, fraction =>
        some ⟨negative, whole, fraction, exponent? (rest.dropWhile Text.isDecimalDigit)⟩ := by
  unfold unsignedAtFront?
  rw [h]
  cases cs.takeWhile Text.isDecimalDigit with
  | nil =>
    cases hfraction : rest.takeWhile Text.isDecimalDigit with
    | nil => simp only [hfraction]
    | cons d ds => simp only [hfraction]
  | cons d ds => rfl

/-- A text without a sign and its lower-case form have the same numeral at the front. -/
theorem unsignedAtFront?_lowerChars (negative : Bool) (before cs : List Char) :
    unsignedAtFront? negative (Text.lowerChars before cs) = unsignedAtFront? negative cs := by
  obtain ⟨htake, before', hdrop⟩ := digits_lowerChars before cs
  have hexponent := exponent?_lowerChars before' (cs.dropWhile Text.isDecimalDigit)
  -- Without a point in either text, the exponent comes right after the digits.
  have hne (hc : (cs.dropWhile Text.isDecimalDigit).head? ≠ some '.')
      (hl : (Text.lowerChars before' (cs.dropWhile Text.isDecimalDigit)).head? ≠ some '.') :
      unsignedAtFront? negative (Text.lowerChars before cs) = unsignedAtFront? negative cs := by
    rw [unsignedAtFront?_of_ne_point negative hc,
      unsignedAtFront?_of_ne_point negative (by rwa [hdrop]), htake, hdrop, hexponent]
  have hfront := lowerFront before' (cs.dropWhile Text.isDecimalDigit)
  generalize hrest : cs.dropWhile Text.isDecimalDigit = rest at hfront hdrop hne
  generalize hlower : Text.lowerChars before' rest = lowered at hfront hdrop hne
  cases hfront with
  | nil => exact hne (by simp) (by simp)
  | mark c cs' hc =>
    by_cases hpoint : c = '.'
    · subst hpoint
      obtain ⟨htake', before'', hdrop'⟩ := digits_lowerChars ('.' :: before') cs'
      rw [unsignedAtFront?_of_point negative hrest, unsignedAtFront?_of_point negative hdrop, htake,
        htake', hdrop', exponent?_lowerChars]
    · exact hne (by simpa using hpoint) (by simpa using hpoint)
  | exponent c cs' hc =>
    have hpoint : c ≠ '.' := by rcases hc with rfl | rfl <;> decide
    exact hne (by simpa using hpoint) (by simp)
  | foreign c d cs' ds hc hd =>
    obtain ⟨-, -, -, hc, -, -⟩ := isForeign_iff.1 hc
    obtain ⟨-, -, -, hd, -, -⟩ := isForeign_iff.1 hd
    exact hne (by simpa using hc) (by simpa using hd)

theorem atFront?_lowerChars (before cs : List Char) :
    atFront? (Text.lowerChars before cs) = atFront? cs := by
  obtain ⟨before', hsign⟩ := sign_lowerChars before cs
  simp only [atFront?, hsign, unsignedAtFront?_lowerChars]

/-- A text and its lower-case form name the same number. -/
theorem score?_lowerChars (before cs : List Char) :
    score? (Text.lowerChars before cs) = score? cs := by
  unfold score?
  rw [atFront?_lowerChars]

end Numeral

namespace CellValue

/-- The value of a text that is no moment, from its key. -/
def ofKey (key : String) : CellValue :=
  match Numeral.score? key.toList with
  | some score => .number score
  | none => .text key

/-- A text that is no moment has the value of its key. -/
theorem read_eq_ofKey {year : Int} {raw : String} (h : (read year raw).isStamp = false) :
    read year raw = ofKey (key raw) := by
  have hscore : Numeral.score? (key raw).toList = Numeral.score? (Text.trimChars raw.toList) := by
    unfold key Text.lower Text.trim
    rw [String.toList_ofList, String.toList_ofList, Numeral.score?_lowerChars]
  unfold ofKey
  rw [hscore]
  simp only [read] at h ⊢
  split at h
  · cases h
  · rfl

end CellValue

end Scoreboard
