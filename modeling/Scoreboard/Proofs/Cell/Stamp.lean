import Scoreboard.Cell.Stamp
import Scoreboard.Proofs.Text.Digit
import Scoreboard.Proofs.Text.Lower

/-!
# The first stamp of a text

A text may hold a stamp anywhere, and more than one. The search goes through the text from the
front, and at each place it takes every run of digits whole. So what it finds is the stamp with the
least before it, and there is only one way to cut the text there. That stamp alone decides: if it
names no moment, the text has none.

## Main definitions

- `StampText.StandsIn` — the text is cut into what is before a stamp, the stamp and what is after
- `StampText.IsFirst` — no stamp of the text has less before it
- `StampText.Names` — the moment that a written stamp names in a year

## Main statements

- `StampText.first?_eq_some_iff` — the search finds the first stamp
- `StampText.resolve?_eq_some_iff` — a stamp is resolved to the moment that it names
- `Stamp.read?_eq_some_iff` — the moment of a text is the one that its first stamp names
-/

namespace Scoreboard

namespace Text

/-- Which characters have a letter of ASCII for their lower case can be told from ASCII alone. -/
theorem toLower_eq_iff {c lower upper : Char} (hlower : lower.toNat < 128)
    (hupper : upper.toNat < 128)
    (hascii : ∀ n : Fin 128,
      (Char.ofNat n).toLower = lower ↔ Char.ofNat n = lower ∨ Char.ofNat n = upper) :
    c.toLower = lower ↔ c = lower ∨ c = upper := by
  by_cases hc : c.toNat < 128
  · apply forall_ascii _ hc
    exact hascii
  · have hne (d : Char) (hd : d.toNat < 128) : c ≠ d := by
      rintro rfl
      exact hc hd
    simp [toLower_of_beyond hc, hne lower hlower, hne upper hupper]

end Text

open Text (IsRun Spells)

namespace Half

/-- The letters of a half of the day. -/
def letters : Half → List Char
  | .am => ['a', 'm']
  | .pm => ['p', 'm']

theorem map_toLower_eq_letters_iff {half : Half} {letters : List Char} :
    letters.map Char.toLower = half.letters ↔ ∃ a m, letters = [a, m] ∧ (m = 'm' ∨ m = 'M') ∧
      (half = .am ∧ (a = 'a' ∨ a = 'A') ∨ half = .pm ∧ (a = 'p' ∨ a = 'P')) := by
  have ha (c : Char) : c.toLower = 'a' ↔ c = 'a' ∨ c = 'A' :=
    Text.toLower_eq_iff (by decide) (by decide) (by decide)
  have hp (c : Char) : c.toLower = 'p' ↔ c = 'p' ∨ c = 'P' :=
    Text.toLower_eq_iff (by decide) (by decide) (by decide)
  have hm (c : Char) : c.toLower = 'm' ↔ c = 'm' ∨ c = 'M' :=
    Text.toLower_eq_iff (by decide) (by decide) (by decide)
  constructor
  · intro h
    have hlength : letters.length = 2 := by
      rw [← List.length_map Char.toLower, h]
      cases half <;> rfl
    obtain ⟨a, m, rfl⟩ := List.length_eq_two.1 hlength
    refine ⟨a, m, rfl, ?_⟩
    cases half with
    | am => simpa [Half.letters, ha, hm, and_comm] using h
    | pm => simpa [Half.letters, hp, hm, and_comm] using h
  · rintro ⟨a, m, rfl, hm', ⟨rfl, ha'⟩ | ⟨rfl, hp'⟩⟩
    · simp [Half.letters, (ha a).2 ha', (hm m).2 hm']
    · simp [Half.letters, (hp a).2 hp', (hm m).2 hm']

/-- The letters of a half of the day do not go on with the digits before them. -/
theorem not_isDecimalDigit_of_letters {half : Half} {letters : List Char}
    (h : letters.map Char.toLower = half.letters) (after : List Char) :
    ∀ c ∈ (letters ++ after).head?, ¬Text.isDecimalDigit c := by
  obtain ⟨a, m, rfl, -, ⟨-, ha⟩ | ⟨-, hp⟩⟩ := map_toLower_eq_letters_iff.1 h
  · rintro _ ⟨⟩
    rcases ha with rfl | rfl <;> decide
  · rintro _ ⟨⟩
    rcases hp with rfl | rfl <;> decide

end Half

namespace StampText

/-- The text is `before`, the stamp and `after`. The stamp writes its half of the day as `letters`,
    in either case. -/
structure StandsIn (stamp : StampText) (before letters after text : List Char) : Prop where
  month_isRun : IsRun stamp.month
  day_isRun : IsRun stamp.day
  hour_isRun : IsRun stamp.hour
  minute_isRun : IsRun stamp.minute
  lower_eq : letters.map Char.toLower = stamp.half.letters
  text_eq : text = before ++ (stamp.month ++ '/' :: (stamp.day ++ ' ' ::
    (stamp.hour ++ ':' :: (stamp.minute ++ (letters ++ after)))))

/-- The stamp stands in the text, and none of the text's stamps has less before it. -/
def IsFirst (stamp : StampText) (before letters after text : List Char) : Prop :=
  stamp.StandsIn before letters after text ∧
    ∀ other before' letters' after', StandsIn other before' letters' after' text →
      before.length ≤ before'.length

/-- The written stamp names the moment in a year: its parts are ASCII digits of numbers that fit 32
    bits, the dial's hour is taken to its half of the day, and the day and the time exist. -/
def Names (stamp : StampText) (year : Int) (moment : Stamp) : Prop :=
  ∃ month day hour minute : Nat,
    (Spells stamp.month month ∧ Spells stamp.day day ∧ Spells stamp.hour hour ∧
      Spells stamp.minute minute) ∧
    (month < 2 ^ 32 ∧ day < 2 ^ 32 ∧ hour < 2 ^ 32 ∧ minute < 2 ^ 32) ∧
    Calendar.isDay year month day = true ∧
    ∃ hour' : Nat,
      hour' = (if stamp.half = .pm ∧ hour < 12 then hour + 12
        else if stamp.half = .am ∧ hour = 12 then 0 else hour) ∧
      hour' < 24 ∧ minute < 60 ∧ moment = ⟨year, month, day, hour', minute⟩

theorem digitsThen?_eq_some_iff {close : Char} (hclose : Text.isDecimalDigit close = false)
    {cs run rest : List Char} :
    digitsThen? close cs = some (run, rest) ↔ IsRun run ∧ cs = run ++ close :: rest := by
  constructor
  · intro h
    unfold digitsThen? at h
    split at h
    · cases h
    · cases h
    · next d ds c after htake hdrop =>
      split at h
      · next hc =>
        cases h
        refine ⟨⟨List.cons_ne_nil d ds, ?_⟩, ?_⟩
        · intro c hmem
          exact List.mem_takeWhile_imp (htake ▸ hmem)
        · rw [← hc, ← htake, ← hdrop, List.takeWhile_append_dropWhile]
      · cases h
  · rintro ⟨hrun, rfl⟩
    have hrest : ∀ c ∈ (close :: rest).head?, ¬Text.isDecimalDigit c := by simp [hclose]
    unfold digitsThen?
    rw [hrun.takeWhile_append hrest, hrun.dropWhile_append hrest]
    obtain ⟨d, ds, rfl⟩ := List.exists_cons_of_ne_nil hrun.1
    exact if_pos rfl

theorem digits?_eq_some_iff {cs run rest : List Char} :
    digits? cs = some (run, rest) ↔
      IsRun run ∧ (∀ c ∈ rest.head?, ¬Text.isDecimalDigit c) ∧ cs = run ++ rest := by
  constructor
  · intro h
    unfold digits? at h
    split at h
    · cases h
    · next d ds htake =>
      cases h
      refine ⟨⟨List.cons_ne_nil d ds, ?_⟩, ?_, ?_⟩
      · intro c hmem
        exact List.mem_takeWhile_imp (htake ▸ hmem)
      · intro c hc
        have := List.head?_dropWhile_not Text.isDecimalDigit cs
        rw [hc] at this
        simpa using this
      · rw [← htake, List.takeWhile_append_dropWhile]
  · rintro ⟨hrun, hrest, rfl⟩
    unfold digits?
    rw [hrun.takeWhile_append hrest, hrun.dropWhile_append hrest]
    obtain ⟨d, ds, rfl⟩ := List.exists_cons_of_ne_nil hrun.1
    rfl

theorem half?_eq_some_iff {cs : List Char} {half : Half} :
    half? cs = some half ↔
      ∃ letters after, letters.map Char.toLower = half.letters ∧ cs = letters ++ after := by
  simp only [Half.map_toLower_eq_letters_iff]
  constructor
  · intro h
    unfold half? at h
    split at h
    · next a m after =>
      refine ⟨[a, m], after, ⟨a, m, rfl, ?_⟩, rfl⟩
      split_ifs at h with hm ha hp
      · cases h
        simp_all
      · cases h
        simp_all
    · cases h
  · rintro ⟨_, after, ⟨a, m, rfl, hm, ⟨rfl, ha⟩ | ⟨rfl, hp⟩⟩, rfl⟩
    · simp [half?, hm, ha]
    · rcases hp with rfl | rfl <;> simp [half?, hm]

theorem atFront?_eq_some_iff {stamp : StampText} {text : List Char} :
    atFront? text = some stamp ↔ ∃ letters after, stamp.StandsIn [] letters after text := by
  unfold atFront?
  simp only [Option.bind_eq_bind, Option.bind_eq_some_iff, Prod.exists, Option.pure_def,
    Option.some.injEq,
    digitsThen?_eq_some_iff (show Text.isDecimalDigit '/' = false by decide),
    digitsThen?_eq_some_iff (show Text.isDecimalDigit ' ' = false by decide),
    digitsThen?_eq_some_iff (show Text.isDecimalDigit ':' = false by decide),
    digits?_eq_some_iff, half?_eq_some_iff]
  constructor
  · rintro ⟨month, _, ⟨hmonth, rfl⟩, day, _, ⟨hday, rfl⟩, hour, _, ⟨hhour, rfl⟩, minute, _,
      ⟨hminute, -, rfl⟩, half, ⟨letters, after, hletters, rfl⟩, rfl⟩
    exact ⟨letters, after, hmonth, hday, hhour, hminute, hletters, rfl⟩
  · rintro ⟨letters, after, hmonth, hday, hhour, hminute, hletters, rfl⟩
    -- The minute ends at a letter.
    exact ⟨_, _, ⟨hmonth, rfl⟩, _, _, ⟨hday, rfl⟩, _, _, ⟨hhour, rfl⟩, _, _,
      ⟨hminute, Half.not_isDecimalDigit_of_letters hletters after, rfl⟩, _,
      ⟨letters, after, hletters, rfl⟩, rfl⟩

section

variable {stamp other : StampText} {c : Char}
  {before before' letters letters' after after' text text' : List Char}

theorem standsIn_append (before : List Char) :
    stamp.StandsIn (before ++ before') letters after (before ++ text) ↔
      stamp.StandsIn before' letters after text := by
  constructor
  · rintro ⟨hmonth, hday, hhour, hminute, hletters, htext⟩
    rw [List.append_assoc] at htext
    exact ⟨hmonth, hday, hhour, hminute, hletters, List.append_cancel_left htext⟩
  · rintro ⟨hmonth, hday, hhour, hminute, hletters, rfl⟩
    exact ⟨hmonth, hday, hhour, hminute, hletters, (List.append_assoc ..).symm⟩

theorem StandsIn.exists_text (h : stamp.StandsIn before letters after text) :
    ∃ text', text = before ++ text' ∧ stamp.StandsIn [] letters after text' := by
  refine ⟨_, h.text_eq, ?_⟩
  rw [← standsIn_append, List.append_nil, ← h.text_eq]
  exact h

/-- There is only one stamp at a place. -/
theorem StandsIn.unique (h : stamp.StandsIn before letters after text)
    (h' : other.StandsIn before' letters' after' text) (hlength : before.length = before'.length) :
    other = stamp ∧ before' = before ∧ letters' = letters ∧ after' = after := by
  obtain ⟨text', rfl, hfront⟩ := h.exists_text
  obtain ⟨_, htext, hfront'⟩ := h'.exists_text
  obtain ⟨rfl, rfl⟩ := List.append_inj htext hlength
  have hstamp : some stamp = some other :=
    (atFront?_eq_some_iff.2 ⟨letters, after, hfront⟩).symm.trans
      (atFront?_eq_some_iff.2 ⟨letters', after', hfront'⟩)
  cases hstamp
  have hrest : letters ++ after = letters' ++ after' := by
    simpa using hfront.text_eq.symm.trans hfront'.text_eq
  have hletters : letters.length = letters'.length := by
    rw [← List.length_map Char.toLower, hfront.lower_eq, ← hfront'.lower_eq, List.length_map]
  obtain ⟨rfl, rfl⟩ := List.append_inj hrest hletters
  exact ⟨rfl, rfl, rfl, rfl⟩

theorem not_standsIn_nil : ¬stamp.StandsIn before letters after [] := by
  intro h
  simpa using h.text_eq

/-- The search goes past a character at which there is no stamp. -/
theorem isFirst_cons (hnone : atFront? (c :: text) = none) :
    stamp.IsFirst before letters after (c :: text) ↔
      ∃ before', before = c :: before' ∧ stamp.IsFirst before' letters after text := by
  have hpast {other : StampText} {before letters after : List Char}
      (h : other.StandsIn before letters after (c :: text)) :
      ∃ before', before = c :: before' ∧ other.StandsIn before' letters after text := by
    cases before with
    | nil => simp [atFront?_eq_some_iff.2 ⟨letters, after, h⟩] at hnone
    | cons b before' =>
      have hb : c = b := (List.cons.inj h.text_eq).1
      subst hb
      exact ⟨before', rfl, (standsIn_append [c]).1 h⟩
  constructor
  · rintro ⟨hstands, hleast⟩
    obtain ⟨before', rfl, hstands'⟩ := hpast hstands
    refine ⟨before', rfl, hstands', fun other b l a h => ?_⟩
    exact Nat.le_of_succ_le_succ (hleast other (c :: b) l a ((standsIn_append [c]).2 h))
  · rintro ⟨before', rfl, hstands, hleast⟩
    refine ⟨(standsIn_append [c]).2 hstands, fun other b l a h => ?_⟩
    obtain ⟨b', rfl, h'⟩ := hpast h
    exact Nat.succ_le_succ (hleast other b' l a h')

/-- The search finds the stamp of a text that has the least before it. -/
theorem first?_eq_some_iff :
    first? text = some stamp ↔ ∃ before letters after, stamp.IsFirst before letters after text := by
  induction text with
  | nil =>
    constructor
    · intro h
      cases h
    · rintro ⟨before, letters, after, hstands, -⟩
      exact absurd hstands not_standsIn_nil
  | cons c text ih =>
    unfold first?
    cases hfront : atFront? (c :: text) with
    | none =>
      show first? text = some stamp ↔ _
      simp only [ih, isFirst_cons hfront]
      grind
    | some found =>
      obtain ⟨letters, after, hfound⟩ := atFront?_eq_some_iff.1 hfront
      constructor
      · rintro ⟨⟩
        exact ⟨[], letters, after, hfound, fun _ _ _ _ _ => Nat.zero_le _⟩
      · rintro ⟨before', letters', after', hstands, hleast⟩
        have hzero : before'.length = 0 := Nat.le_zero.1 (hleast found [] letters after hfound)
        exact congrArg some (hstands.unique hfound hzero).1

end

theorem part?_eq_some_iff {digits : List Char} {n : Nat} :
    part? digits = some n ↔ Spells digits n ∧ n < 2 ^ 32 := by
  unfold part?
  rw [Option.filter_eq_some_iff, Text.natOfDigits?_eq_some_iff, decide_eq_true_iff]
  rfl

theorem hourOfDay_eq (half : Half) (hour : Nat) :
    hourOfDay half hour = if half = .pm ∧ hour < 12 then hour + 12
      else if half = .am ∧ hour = 12 then 0 else hour := by
  cases half <;> simp [hourOfDay]

theorem resolve?_eq_some_iff {stamp : StampText} {year : Int} {moment : Stamp} :
    stamp.resolve? year = some moment ↔ stamp.Names year moment := by
  unfold resolve? Names
  simp only [Option.bind_eq_bind, Option.bind_eq_some_iff, part?_eq_some_iff, hourOfDay_eq,
    Option.ite_none_right_eq_some, Option.some.injEq, Bool.and_eq_true, decide_eq_true_iff]
  constructor
  · rintro ⟨month, ⟨hmonth, hmonth'⟩, day, ⟨hday, hday'⟩, hour, ⟨hhour, hhour'⟩, minute,
      ⟨hminute, hminute'⟩, ⟨⟨hexists, hlt⟩, hlt'⟩, rfl⟩
    exact ⟨month, day, hour, minute, ⟨hmonth, hday, hhour, hminute⟩,
      ⟨hmonth', hday', hhour', hminute'⟩, hexists, _, rfl, hlt, hlt', rfl⟩
  · rintro ⟨month, day, hour, minute, ⟨hmonth, hday, hhour, hminute⟩,
      ⟨hmonth', hday', hhour', hminute'⟩, hexists, _, rfl, hlt, hlt', rfl⟩
    exact ⟨month, ⟨hmonth, hmonth'⟩, day, ⟨hday, hday'⟩, hour, ⟨hhour, hhour'⟩, minute,
      ⟨hminute, hminute'⟩, ⟨⟨hexists, hlt⟩, hlt'⟩, rfl⟩

end StampText

namespace Stamp

/-- A text has a moment in a year just where it has a stamp and the first one names a moment, which
    is the moment then. There is one way to cut the text at the first stamp, and if that names no
    moment, the text has none, whatever comes after it. -/
theorem read?_eq_some_iff (year : Int) (text : List Char) :
    (∀ moment, read? year text = some moment ↔
      ∃ stamp before letters after,
        StampText.IsFirst stamp before letters after text ∧ stamp.Names year moment) ∧
    ∀ stamp before letters after, StampText.IsFirst stamp before letters after text →
      (∀ other before' letters' after', StampText.IsFirst other before' letters' after' text →
        other = stamp ∧ before' = before ∧ letters' = letters ∧ after' = after) ∧
      ((∀ moment, ¬stamp.Names year moment) → read? year text = none) := by
  constructor
  · intro moment
    unfold read?
    simp only [Option.bind_eq_some_iff, StampText.first?_eq_some_iff,
      StampText.resolve?_eq_some_iff]
    grind
  · intro stamp before letters after hfirst
    refine ⟨fun other before' letters' after' hother => ?_, fun hnames => ?_⟩
    · refine hfirst.1.unique hother.1 (Nat.le_antisymm ?_ ?_)
      · exact hfirst.2 other before' letters' after' hother.1
      · exact hother.2 stamp before letters after hfirst.1
    · have hfound := StampText.first?_eq_some_iff.2 ⟨before, letters, after, hfirst⟩
      unfold read?
      rw [hfound, Option.bind_some, Option.eq_none_iff_forall_ne_some]
      exact fun moment h => hnames moment (StampText.resolve?_eq_some_iff.1 h)

/-- A month that does not exist hides the stamp after it. -/
theorem read?_eq_some_iff_thirteenthMonth :
    read? 2024 "13/4 10:30am 3/4 10:30am".toList = none := by
  have hfirst : StampText.IsFirst ⟨"13".toList, "4".toList, "10".toList, "30".toList, .am⟩ []
      "am".toList " 3/4 10:30am".toList "13/4 10:30am 3/4 10:30am".toList := by
    refine ⟨⟨?_, ?_, ?_, ?_, by decide, by decide⟩, fun _ _ _ _ _ => Nat.zero_le _⟩
    all_goals exact ⟨by decide, List.all_eq_true.1 (by decide)⟩
  refine ((read?_eq_some_iff 2024 _).2 _ _ _ _ hfirst).2 fun moment h => ?_
  cases (StampText.resolve?_eq_some_iff.2 h : (none : Option Stamp) = some moment)

example : read? 2024 "1/3/4 12:05am (CT)".toList = some ⟨2024, 3, 4, 0, 5⟩ := by
  decide

end Stamp

end Scoreboard
