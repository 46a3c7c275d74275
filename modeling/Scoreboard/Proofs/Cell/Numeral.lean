import Scoreboard.Proofs.Cell.Key
import Scoreboard.Proofs.Text.Digit

/-!
# The numeral at the front of a text

A numeral is a sign or none, digits with a point among them or none, and an exponent or none. Each
part takes all the digits that stand there, and a point or an exponent is taken wherever it can be.
What is found so is the longest numeral at the front of the text: no numeral takes less of one part
to have more of the next.

## Main definitions

- `Numeral.Writes` — a text is a way to write a numeral
- `Numeral.StandsAtFront` — the longest numeral at the front of a text

## Main statements

- `Numeral.atFront?_eq_some_iff` — the numeral that is found is the longest one
-/

namespace Scoreboard

open Text (IsRun)

namespace Numeral

/-- A sign, as it is written. Without one a number is not negative. -/
inductive WritesSign : Bool → List Char → Prop where
  | absent : WritesSign false []
  | plus : WritesSign false ['+']
  | minus : WritesSign true ['-']

/-- The digits before and after the point, as they are written: digits, perhaps with a point and
    more digits or none after them, or a point with digits after it. -/
inductive WritesDigits : List Char → List Char → List Char → Prop where
  | whole {whole : List Char} (h : IsRun whole) : WritesDigits whole [] whole
  | point {whole fraction : List Char} (h : IsRun whole)
      (h' : ∀ c ∈ fraction, Text.isDecimalDigit c = true) :
      WritesDigits whole fraction (whole ++ '.' :: fraction)
  | fraction {fraction : List Char} (h : IsRun fraction) :
      WritesDigits [] fraction ('.' :: fraction)

/-- An exponent, as it is written, if at all. -/
inductive WritesExponent : Option (Bool × List Char) → List Char → Prop where
  | absent : WritesExponent none []
  | present {letter : Char} {negative : Bool} {sign digits : List Char}
      (h : letter = 'e' ∨ letter = 'E') (hsign : WritesSign negative sign)
      (hdigits : IsRun digits) :
      WritesExponent (some (negative, digits)) (letter :: (sign ++ digits))

/-- What comes after the sign of a numeral, as it is written. -/
def WritesUnsigned (numeral : Numeral) (run : List Char) : Prop :=
  ∃ digits exponent, WritesDigits numeral.whole numeral.fraction digits ∧
    WritesExponent numeral.exponent exponent ∧ run = digits ++ exponent

/-- The text is a way to write the numeral. -/
def Writes (numeral : Numeral) (run : List Char) : Prop :=
  ∃ sign rest, WritesSign numeral.negative sign ∧ WritesUnsigned numeral rest ∧ run = sign ++ rest

/-- The numeral stands at the front of the text as `run`, with `after` behind it, and no longer
    numeral stands there. -/
structure StandsAtFront (numeral : Numeral) (run after text : List Char) : Prop where
  writes : numeral.Writes run
  text_eq : text = run ++ after
  longest : ∀ (other : Numeral) (run' after' : List Char),
    other.Writes run' → text = run' ++ after' → run'.length ≤ run.length

/-- Of all that is written at the front of a text, `run` is the longest, and it is written for
    nothing but `a`. -/
structure Longest {β : Type} (writes : β → List Char → Prop) (text : List Char) (a : β)
    (run after : List Char) : Prop where
  written : writes a run
  text_eq : text = run ++ after
  lt_or_eq : ∀ b run' after', writes b run' → text = run' ++ after' →
    run'.length < run.length ∨ run' = run ∧ b = a

/-- The longest of what is written at the front of a text is found, if anything is. -/
def FindsLongest {β : Type} (writes : β → List Char → Prop) (text : List Char) : Option β → Prop
  | none => ∀ b run after, writes b run → text ≠ run ++ after
  | some a => ∃ run after, Longest writes text a run after

section

variable {negative : Bool} {sign' cs : List Char}

theorem exists_sign (cs : List Char) :
    ∃ sign', WritesSign (sign cs).1 sign' ∧ cs = sign' ++ (sign cs).2 := by
  cases cs with
  | nil => exact ⟨[], .absent, rfl⟩
  | cons c cs =>
    by_cases hminus : c = '-'
    · subst hminus
      exact ⟨['-'], .minus, rfl⟩
    · by_cases hplus : c = '+'
      · subst hplus
        exact ⟨['+'], .plus, rfl⟩
      · rw [sign_of_ne cs hminus hplus]
        exact ⟨[], .absent, rfl⟩

theorem WritesSign.sign_append (h : WritesSign negative sign') {c : Char} (hminus : c ≠ '-')
    (hplus : c ≠ '+') (cs : List Char) : sign (sign' ++ c :: cs) = (negative, c :: cs) := by
  cases h with
  | absent => exact sign_of_ne cs hminus hplus
  | plus => rfl
  | minus => rfl

end

section

variable {e : Option (Bool × List Char)} {c : Char} {run cs after : List Char}

theorem ne_sign_of_isDecimalDigit {c : Char} (h : Text.isDecimalDigit c = true) :
    c ≠ '-' ∧ c ≠ '+' := by
  constructor <;> rintro rfl <;> exact absurd h (by decide)

/-- What an exponent at the front of a text can be. -/
theorem WritesExponent.cases_cons (h : WritesExponent e run) (htext : c :: cs = run ++ after) :
    (run = [] ∧ e = none) ∨
      (c = 'e' ∨ c = 'E') ∧ ∃ sign' digits, WritesSign (sign cs).1 sign' ∧ IsRun digits ∧
        cs = sign' ++ (sign cs).2 ∧ (sign cs).2 = digits ++ after ∧
        run = c :: (sign' ++ digits) ∧ e = some ((sign cs).1, digits) := by
  cases h with
  | absent => exact .inl ⟨rfl, rfl⟩
  | @present letter negative sign' digits hletter hsign hdigits =>
    right
    rw [List.cons_append, List.cons.injEq, List.append_assoc] at htext
    obtain ⟨rfl, rfl⟩ := htext
    obtain ⟨d, ds, rfl⟩ := List.exists_cons_of_ne_nil hdigits.1
    obtain ⟨hminus, hplus⟩ := ne_sign_of_isDecimalDigit (hdigits.2 d List.mem_cons_self)
    have hread := hsign.sign_append hminus hplus (ds ++ after)
    rw [List.cons_append, hread]
    exact ⟨hletter, sign', d :: ds, hsign, hdigits, rfl, rfl, rfl, rfl⟩

theorem exponent?_of_letter (h : c = 'e' ∨ c = 'E') (cs : List Char) :
    exponent? (c :: cs) =
      match (sign cs).2.takeWhile Text.isDecimalDigit with
      | [] => none
      | d :: ds => some ((sign cs).1, d :: ds) :=
  if_pos (by simpa using h)

theorem exponent?_of_not_letter (h : ¬ (c = 'e' ∨ c = 'E')) (cs : List Char) :
    exponent? (c :: cs) = none :=
  if_neg (by simpa using h)

theorem exponent?_longest (cs : List Char) :
    ∃ run after, Longest WritesExponent cs (exponent? cs) run after := by
  cases cs with
  | nil =>
    refine ⟨[], [], .absent, rfl, fun e run' after' he htext => .inr ?_⟩
    cases he with
    | absent => exact ⟨rfl, rfl⟩
    | present hletter hsign hdigits => cases htext
  | cons c cs =>
    -- Where no exponent is found, none is written.
    have hnone (hfound : exponent? (c :: cs) = none)
        (hdigits : c = 'e' ∨ c = 'E' → (sign cs).2.takeWhile Text.isDecimalDigit = []) :
        ∃ run after, Longest WritesExponent (c :: cs) (exponent? (c :: cs)) run after := by
      rw [hfound]
      refine ⟨[], c :: cs, .absent, rfl, fun e run' after' he htext => .inr ?_⟩
      rcases he.cases_cons htext with hrun | ⟨hletter, sign', digits, -, hrun, -, hafter, -⟩
      · exact hrun
      · have htake := hdigits hletter
        rw [hafter] at htake
        exact absurd htake (hrun.takeWhile_ne_nil after')
    by_cases hletter : c = 'e' ∨ c = 'E'
    · cases htake : (sign cs).2.takeWhile Text.isDecimalDigit with
      | nil => exact hnone (by rw [exponent?_of_letter hletter, htake]) fun _ => htake
      | cons d ds =>
        rw [exponent?_of_letter hletter, htake]
        obtain ⟨sign', hsign, hcs⟩ := exists_sign cs
        have hdigits : IsRun (d :: ds) := by
          refine ⟨List.cons_ne_nil d ds, fun c hc => ?_⟩
          exact List.mem_takeWhile_imp (htake ▸ hc)
        refine ⟨c :: (sign' ++ d :: ds), (sign cs).2.dropWhile Text.isDecimalDigit,
          .present hletter hsign hdigits, ?_, fun e run' after' he htext => ?_⟩
        · rw [List.cons_append, List.append_assoc, ← htake, List.takeWhile_append_dropWhile, ← hcs]
        · rcases he.cases_cons htext with
            ⟨rfl, -⟩ | ⟨-, sign'', digits, -, hrun, hcs', hafter, rfl, rfl⟩
          · exact .inl (Nat.succ_pos _)
          · obtain rfl : sign' = sign'' := List.append_cancel_right (hcs.symm.trans hcs')
            rcases Text.digits_append hrun.2 after' with ⟨htake', -⟩ | ⟨hlt, -⟩
            · rw [← hafter, htake] at htake'
              subst htake'
              exact .inr ⟨rfl, rfl⟩
            · rw [← hafter, htake] at hlt
              refine .inl ?_
              simp only [List.length_cons, List.length_append] at hlt ⊢
              omega
    · exact hnone (exponent?_of_not_letter hletter cs) fun h => absurd h hletter

theorem longest_point (rest : List Char) :
    Longest WritesExponent ('.' :: rest) none [] ('.' :: rest) := by
  refine ⟨.absent, rfl, fun e run' after' he htext => ?_⟩
  rcases he.cases_cons htext with hrun | ⟨hletter, -⟩
  · exact .inr hrun
  · exact absurd hletter (by decide)

/-- Digits and an exponent at the front of a text, found one after the other, are the longest. -/
theorem Longest.digits_exponent {text digits exponent run after after' : List Char}
    {e e' : Option (Bool × List Char)}
    (hlongest : Longest WritesExponent (text.dropWhile Text.isDecimalDigit) e run after)
    (hdigits : ∀ c ∈ digits, Text.isDecimalDigit c = true) (hexponent : WritesExponent e' exponent)
    (htext : text = digits ++ (exponent ++ after')) :
    digits.length + exponent.length <
        (text.takeWhile Text.isDecimalDigit).length + run.length ∨
      digits = text.takeWhile Text.isDecimalDigit ∧ exponent = run ∧ e' = e := by
  subst htext
  rcases Text.digits_append hdigits (exponent ++ after') with
    ⟨htake, hdrop⟩ | ⟨hlt, c, cs, hrest, hc⟩
  · rw [hdrop] at hlongest
    rw [htake]
    rcases hlongest.lt_or_eq e' exponent after' hexponent rfl with hlt | ⟨hrun, he⟩
    · exact .inl (by omega)
    · exact .inr ⟨rfl, hrun, he⟩
  · -- A digit comes after the digits, so there is no exponent.
    left
    cases hexponent with
    | absent =>
      rw [List.length_nil]
      omega
    | present hletter hsign hdigits =>
      rw [List.cons_append, List.cons.injEq] at hrest
      rw [← hrest.1, isDecimalDigit_exponent hletter] at hc
      cases hc

end

section

variable {negative : Bool} {numeral : Numeral} {whole fraction digits run after cs : List Char}

theorem WritesDigits.cases_point (h : WritesDigits whole fraction digits) :
    IsRun whole ∧ fraction = [] ∧ digits = whole ∨
      (∀ c ∈ whole, Text.isDecimalDigit c = true) ∧
        (∀ c ∈ fraction, Text.isDecimalDigit c = true) ∧ (whole ≠ [] ∨ fraction ≠ []) ∧
        digits = whole ++ '.' :: fraction := by
  cases h with
  | whole h => exact .inl ⟨h, rfl, rfl⟩
  | point h h' => exact .inr ⟨h.2, h', .inl h.1, rfl⟩
  | fraction h => exact .inr ⟨by simp, h.2, .inr h.1, rfl⟩

theorem writesDigits_point (hwhole : ∀ c ∈ whole, Text.isDecimalDigit c = true)
    (hfraction : ∀ c ∈ fraction, Text.isDecimalDigit c = true) (hne : whole ≠ [] ∨ fraction ≠ []) :
    WritesDigits whole fraction (whole ++ '.' :: fraction) := by
  by_cases h : whole = []
  · subst h
    exact .fraction ⟨hne.resolve_left fun h => h rfl, hfraction⟩
  · exact .point ⟨h, hwhole⟩ hfraction

/-- Digits before a point are the whole run of digits. -/
theorem digits_append_point (hwhole : ∀ c ∈ whole, Text.isDecimalDigit c = true)
    (rest : List Char) :
    (whole ++ '.' :: rest).takeWhile Text.isDecimalDigit = whole ∧
      (whole ++ '.' :: rest).dropWhile Text.isDecimalDigit = '.' :: rest := by
  rcases Text.digits_append hwhole ('.' :: rest) with hrun | ⟨-, c, cs, hrest, hc⟩
  · exact hrun
  · cases hrest
    cases hc

theorem isRun_takeWhile {d : Char} {ds : List Char}
    (h : cs.takeWhile Text.isDecimalDigit = d :: ds) : IsRun (d :: ds) :=
  ⟨List.cons_ne_nil d ds, fun _ hc => List.mem_takeWhile_imp (h ▸ hc)⟩

/-- Where no point follows the first digits, whatever stands there has none. -/
theorem WritesUnsigned.of_ne_point
    (hpoint : (cs.dropWhile Text.isDecimalDigit).head? ≠ some '.') (h : WritesUnsigned numeral run)
    (htext : cs = run ++ after) :
    ∃ exponent, IsRun numeral.whole ∧ numeral.fraction = [] ∧
      WritesExponent numeral.exponent exponent ∧ run = numeral.whole ++ exponent := by
  obtain ⟨digits, exponent, hdigits, hexponent, rfl⟩ := h
  rcases hdigits.cases_point with ⟨hrun, hfraction, rfl⟩ | ⟨hbefore, -, -, rfl⟩
  · exact ⟨exponent, hrun, hfraction, hexponent, rfl⟩
  · refine absurd ?_ hpoint
    rw [htext, List.append_assoc, List.append_assoc, List.cons_append,
      (digits_append_point hbefore _).2]
    rfl

/-- What comes after the sign, where no point follows the first digits. -/
theorem findsLongest_of_ne_point (hpoint : (cs.dropWhile Text.isDecimalDigit).head? ≠ some '.') :
    FindsLongest (fun n r => n.negative = negative ∧ WritesUnsigned n r) cs
      (unsignedAtFront? negative cs) := by
  obtain ⟨tail, after, htail⟩ := exponent?_longest (cs.dropWhile Text.isDecimalDigit)
  rw [unsignedAtFront?_of_ne_point negative hpoint]
  cases htake : cs.takeWhile Text.isDecimalDigit with
  | nil =>
    rintro numeral run after ⟨-, hwrites⟩ htext
    obtain ⟨exponent, hrun, -, -, rfl⟩ := hwrites.of_ne_point hpoint htext
    rw [htext, List.append_assoc] at htake
    exact hrun.takeWhile_ne_nil _ htake
  | cons d ds =>
    refine ⟨d :: ds ++ tail, after, ⟨rfl, d :: ds, tail, .whole (isRun_takeWhile htake),
      htail.written, rfl⟩, ?_, ?_⟩
    · rw [← htake, List.append_assoc, ← htail.text_eq, List.takeWhile_append_dropWhile]
    · rintro numeral run after' ⟨rfl, hwrites⟩ htext
      obtain ⟨exponent, hrun, hfraction, hexponent, rfl⟩ := hwrites.of_ne_point hpoint htext
      rw [List.append_assoc] at htext
      rcases htail.digits_exponent hrun.2 hexponent htext with hlt | ⟨hdigits, rfl, he⟩
      · left
        rw [htake] at hlt
        simpa only [List.length_append] using hlt
      · right
        rw [htake] at hdigits
        rw [← hdigits, ← he, ← hfraction]
        exact ⟨rfl, rfl⟩

/-- Where a point follows the first digits, whatever stands there ends at the point or goes on
    behind it. -/
theorem WritesUnsigned.cases_of_point {rest : List Char}
    (hpoint : cs.dropWhile Text.isDecimalDigit = '.' :: rest) (h : WritesUnsigned numeral run)
    (htext : cs = run ++ after) :
    cs.takeWhile Text.isDecimalDigit ≠ [] ∧
        run.length ≤ (cs.takeWhile Text.isDecimalDigit).length ∨
      ∃ exponent, numeral.whole = cs.takeWhile Text.isDecimalDigit ∧
        (∀ c ∈ numeral.fraction, Text.isDecimalDigit c = true) ∧
        (numeral.whole ≠ [] ∨ numeral.fraction ≠ []) ∧
        WritesExponent numeral.exponent exponent ∧
        run = numeral.whole ++ '.' :: (numeral.fraction ++ exponent) ∧
        rest = numeral.fraction ++ (exponent ++ after) := by
  obtain ⟨digits, exponent, hdigits, hexponent, rfl⟩ := h
  rw [List.append_assoc] at htext
  rcases hdigits.cases_point with ⟨hrun, -, rfl⟩ | ⟨hbefore, hbehind, hne, rfl⟩
  · left
    have hnone : Longest WritesExponent (cs.dropWhile Text.isDecimalDigit) none [] ('.' :: rest) :=
      hpoint ▸ longest_point rest
    have hlength := hnone.digits_exponent hrun.2 hexponent htext
    refine ⟨fun htake => hrun.takeWhile_ne_nil _ (htext ▸ htake), ?_⟩
    rw [List.length_append]
    rcases hlength with hlt | ⟨hwhole, rfl, -⟩
    · exact hlt.le
    · rw [hwhole]
      exact le_rfl
  · right
    rw [List.append_assoc, List.cons_append] at htext
    obtain ⟨htake, hdrop⟩ := digits_append_point hbefore (numeral.fraction ++ (exponent ++ after))
    rw [← htext] at htake hdrop
    rw [hpoint, List.cons.injEq] at hdrop
    exact ⟨exponent, htake.symm, hbehind, hne, hexponent, by simp, hdrop.2⟩

/-- What comes after the sign, where a point follows the first digits. -/
theorem findsLongest_of_point {rest : List Char}
    (hpoint : cs.dropWhile Text.isDecimalDigit = '.' :: rest) :
    FindsLongest (fun n r => n.negative = negative ∧ WritesUnsigned n r) cs
      (unsignedAtFront? negative cs) := by
  obtain ⟨tail, after, htail⟩ := exponent?_longest (rest.dropWhile Text.isDecimalDigit)
  rw [unsignedAtFront?_of_point negative hpoint]
  split
  · next htake htake' =>
    rintro numeral run after ⟨-, hwrites⟩ htext
    rcases hwrites.cases_of_point hpoint htext with
      ⟨hne, -⟩ | ⟨exponent, hwhole, hbehind, hne, -, -, hrest⟩
    · exact hne htake
    · rw [htake] at hwhole
      have hfraction : IsRun numeral.fraction := ⟨hne.resolve_left fun h => h hwhole, hbehind⟩
      rw [hrest] at htake'
      exact hfraction.takeWhile_ne_nil _ htake'
  · next hne =>
    have hbefore : ∀ c ∈ cs.takeWhile Text.isDecimalDigit, Text.isDecimalDigit c = true :=
      fun _ => List.mem_takeWhile_imp
    have hbehind : ∀ c ∈ rest.takeWhile Text.isDecimalDigit, Text.isDecimalDigit c = true :=
      fun _ => List.mem_takeWhile_imp
    have hsome : cs.takeWhile Text.isDecimalDigit ≠ [] ∨
        rest.takeWhile Text.isDecimalDigit ≠ [] := by
      by_contra hnone
      push Not at hnone
      exact hne hnone.1 hnone.2
    refine ⟨cs.takeWhile Text.isDecimalDigit ++ '.' :: rest.takeWhile Text.isDecimalDigit ++ tail,
      after, ⟨rfl, _, tail, writesDigits_point hbefore hbehind hsome, htail.written, rfl⟩, ?_, ?_⟩
    · rw [List.append_assoc, List.append_assoc, List.cons_append, ← htail.text_eq,
        List.takeWhile_append_dropWhile, ← hpoint, List.takeWhile_append_dropWhile]
    · rintro numeral run after' ⟨rfl, hwrites⟩ htext
      rcases hwrites.cases_of_point hpoint htext with
        ⟨-, hlength⟩ | ⟨exponent, hwhole, hdigits, -, hexponent, rfl, hrest⟩
      · left
        simp only [List.length_append, List.length_cons]
        omega
      · rcases htail.digits_exponent hdigits hexponent hrest with hlt | ⟨hfraction, rfl, he⟩
        · left
          rw [hwhole]
          simp only [List.length_append, List.length_cons]
          omega
        · right
          rw [← hwhole, ← hfraction, ← he]
          exact ⟨by simp, rfl⟩

end

/-- What comes after the sign is read as the longest that is written there. -/
theorem unsignedAtFront?_findsLongest (negative : Bool) (cs : List Char) :
    FindsLongest (fun n r => n.negative = negative ∧ WritesUnsigned n r) cs
      (unsignedAtFront? negative cs) := by
  by_cases hpoint : (cs.dropWhile Text.isDecimalDigit).head? = some '.'
  · obtain ⟨rest, hrest⟩ := List.head?_eq_some_iff.1 hpoint
    exact findsLongest_of_point hrest
  · exact findsLongest_of_ne_point hpoint

/-- What comes after the sign starts with a digit or a point. -/
theorem WritesUnsigned.exists_cons {numeral : Numeral} {run : List Char}
    (h : WritesUnsigned numeral run) : ∃ c cs, run = c :: cs ∧ c ≠ '-' ∧ c ≠ '+' := by
  obtain ⟨negative, whole, fraction, exponent⟩ := numeral
  obtain ⟨digits, tail, hdigits, -, rfl⟩ := h
  dsimp only at hdigits
  have hrun {whole : List Char} (h : IsRun whole) (rest : List Char) :
      ∃ c cs, whole ++ rest = c :: cs ∧ c ≠ '-' ∧ c ≠ '+' := by
    obtain ⟨d, ds, rfl⟩ := List.exists_cons_of_ne_nil h.1
    exact ⟨d, ds ++ rest, rfl, ne_sign_of_isDecimalDigit (h.2 d List.mem_cons_self)⟩
  cases hdigits with
  | whole h => exact hrun h tail
  | point h h' => exact List.append_assoc .. ▸ hrun h _
  | fraction h => exact ⟨'.', _, rfl, by decide, by decide⟩

/-- A numeral is read as the longest that is written at the front of a text. -/
theorem atFront?_findsLongest (text : List Char) : FindsLongest Writes text (atFront? text) := by
  obtain ⟨sign', hsign, hcs⟩ := exists_sign text
  -- Whatever stands there has the sign that is read.
  have hothers {numeral : Numeral} {run after : List Char} (h : numeral.Writes run)
      (htext : text = run ++ after) : ∃ rest, numeral.negative = (sign text).1 ∧
        WritesUnsigned numeral rest ∧ run = sign' ++ rest ∧ (sign text).2 = rest ++ after := by
    obtain ⟨sign'', rest, hsign', hrest, rfl⟩ := h
    obtain ⟨c, cs, rfl, hminus, hplus⟩ := hrest.exists_cons
    rw [List.append_assoc, List.cons_append] at htext
    have hread := hsign'.sign_append hminus hplus (cs ++ after)
    rw [← htext] at hread
    have hsame : sign' ++ (sign text).2 = sign'' ++ (sign text).2 := by
      rw [← hcs, hread, ← htext]
    obtain rfl := List.append_cancel_right hsame
    exact ⟨c :: cs, by rw [hread], hrest, rfl, by rw [hread]; rfl⟩
  have hlongest := unsignedAtFront?_findsLongest (sign text).1 (sign text).2
  show FindsLongest Writes text (unsignedAtFront? (sign text).1 (sign text).2)
  cases hfound : unsignedAtFront? (sign text).1 (sign text).2 with
  | none =>
    rw [hfound] at hlongest
    intro numeral run after hwrites htext
    obtain ⟨rest, hnegative, hrest, -, hafter⟩ := hothers hwrites htext
    exact hlongest numeral rest after ⟨hnegative, hrest⟩ hafter
  | some numeral =>
    rw [hfound] at hlongest
    obtain ⟨rest, after, ⟨hnegative, hrest⟩, htext, hlt⟩ := hlongest
    refine ⟨sign' ++ rest, after, ⟨sign', rest, hnegative ▸ hsign, hrest, rfl⟩, ?_, ?_⟩
    · rw [List.append_assoc, ← htext, ← hcs]
    · intro other run' after' hwrites htext'
      obtain ⟨rest', hnegative', hrest', rfl, hafter⟩ := hothers hwrites htext'
      rcases hlt other rest' after' ⟨hnegative', hrest'⟩ hafter with hless | ⟨rfl, rfl⟩
      · left
        rw [List.length_append, List.length_append]
        omega
      · exact .inr ⟨rfl, rfl⟩

/-- The numeral that is read is the longest one at the front of the text. -/
theorem atFront?_eq_some_iff {text : List Char} {numeral : Numeral} :
    atFront? text = some numeral ↔ ∃ run after, numeral.StandsAtFront run after text := by
  have hlongest := atFront?_findsLongest text
  constructor
  · intro hfound
    rw [hfound] at hlongest
    obtain ⟨run, after, hwrites, htext, hlt⟩ := hlongest
    refine ⟨run, after, hwrites, htext, fun other run' after' hwrites' htext' => ?_⟩
    rcases hlt other run' after' hwrites' htext' with hless | ⟨rfl, -⟩
    · exact hless.le
    · exact le_rfl
  · rintro ⟨run, after, hwrites, htext, hle⟩
    cases hfound : atFront? text with
    | none =>
      rw [hfound] at hlongest
      exact absurd htext (hlongest numeral run after hwrites)
    | some found =>
      rw [hfound] at hlongest
      obtain ⟨run', after', hwrites', htext', hlt⟩ := hlongest
      rcases hlt numeral run after hwrites htext with hless | ⟨-, rfl⟩
      · exact absurd (hle found run' after' hwrites' htext') (Nat.not_le_of_lt hless)
      · rfl

theorem StandsAtFront.unique {numeral numeral' : Numeral} {run after run' after' text : List Char}
    (h : numeral.StandsAtFront run after text) (h' : numeral'.StandsAtFront run' after' text) :
    numeral' = numeral ∧ run' = run ∧ after' = after := by
  have hlength : run'.length = run.length :=
    Nat.le_antisymm (h.longest numeral' run' after' h'.writes h'.text_eq)
      (h'.longest numeral run after h.writes h.text_eq)
  have hnumeral : some numeral' = some numeral :=
    (atFront?_eq_some_iff.2 ⟨run', after', h'⟩).symm.trans (atFront?_eq_some_iff.2 ⟨run, after, h⟩)
  obtain ⟨hrun, hafter⟩ := List.append_inj (h'.text_eq.symm.trans h.text_eq) hlength
  exact ⟨Option.some.inj hnumeral, hrun, hafter⟩

/-- A numeral is the longest one at the front of itself. -/
theorem Writes.standsAtFront {numeral : Numeral} {run : List Char} (h : numeral.Writes run) :
    numeral.StandsAtFront run [] run where
  writes := h
  text_eq := (List.append_nil run).symm
  longest other run' after' _ htext := by
    rw [htext, List.length_append]
    exact Nat.le_add_right _ _

end Numeral

end Scoreboard
