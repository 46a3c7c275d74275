import Scoreboard.Cell.Value
import Scoreboard.Proofs.Cell.Stamp

/-!
# Texts in another year

A stamp names no year. The year in which it is read decides whether its day exists, which differs
from year to year for 29 February alone, and it is the same for all stamps that are compared.

## Main definitions

- `CellValue.NamesLeapDay` — the first stamp of a text is for 29 February
- `CellValue.inYear` — the value of a text, moved to another year

## Main statements

- `CellValue.read_inYear` — a text that does not name 29 February reads the same in every year
- `CellValue.compare?_of_year` — such texts have the same order in every year
-/

namespace Scoreboard

open Text (Spells)

namespace Calendar

/-- Days may lie in the year. -/
def Supports (year : Int) : Prop :=
  firstYear ≤ year ∧ year ≤ lastYear

theorem daysIn_of_ne {month : Nat} (h : month ≠ 2) (leap leap' : Bool) :
    daysIn leap month = daysIn leap' month := by
  unfold daysIn
  split <;> first | rfl | exact absurd rfl h

/-- Years of the same length have the same days, and all years have all days but one. -/
theorem isDay_of_year {y₁ y₂ : Int} (h₁ : Supports y₁) (h₂ : Supports y₂) {month day : Nat}
    (h : isLeap y₁ = isLeap y₂ ∨ ¬(month = 2 ∧ day = 29)) :
    isDay y₁ month day = isDay y₂ month day := by
  have hdays : day ≤ daysIn (isLeap y₁) month ↔ day ≤ daysIn (isLeap y₂) month := by
    rcases h with hleap | hday
    · rw [hleap]
    · by_cases hmonth : month = 2
      · have hfebruary (leap : Bool) : day ≤ daysIn leap month ↔ day ≤ 28 := by
          rw [hmonth]
          cases leap with
          | false => rfl
          | true =>
            show day ≤ 29 ↔ day ≤ 28
            omega
        rw [hfebruary, hfebruary]
      · rw [daysIn_of_ne hmonth (isLeap y₁) (isLeap y₂)]
  unfold isDay
  simp only [h₁.1, h₁.2, h₂.1, h₂.2, hdays]

end Calendar

open Calendar (Supports isLeap)

namespace Stamp

/-- The moment, moved to another year. -/
def inYear (year : Int) (moment : Stamp) : Stamp :=
  { moment with year }

theorem order_inYear {s t : Stamp} (h : s.year = t.year) (year : Int) :
    (s.inYear year).order (t.inYear year) = s.order t := by
  unfold order inYear
  rw [h, Std.ReflOrd.compare_self, Std.ReflOrd.compare_self]

end Stamp

theorem StampText.resolve?_inYear {y₁ y₂ : Int} (h₁ : Supports y₁) (h₂ : Supports y₂)
    {stamp : StampText}
    (h : isLeap y₁ = isLeap y₂ ∨ ¬(Spells stamp.month 2 ∧ Spells stamp.day 29)) :
    stamp.resolve? y₂ = (stamp.resolve? y₁).map (Stamp.inYear y₂) := by
  unfold resolve?
  cases hmonth : part? stamp.month with
  | none => rfl
  | some month =>
    cases hday : part? stamp.day with
    | none => rfl
    | some day =>
      cases part? stamp.hour with
      | none => rfl
      | some hour =>
        cases part? stamp.minute with
        | none => rfl
        | some minute =>
          have hsame : Calendar.isDay y₁ month day = Calendar.isDay y₂ month day := by
            refine Calendar.isDay_of_year h₁ h₂ (h.imp_right fun hother => ?_)
            rintro ⟨rfl, rfl⟩
            exact hother ⟨(part?_eq_some_iff.1 hmonth).1, (part?_eq_some_iff.1 hday).1⟩
          simp only [Option.bind_eq_bind, Option.bind_some, hsame]
          split <;> rfl

namespace CellValue

/-- The first stamp of a text has month 2 and day 29, however they are written. -/
def NamesLeapDay (raw : String) : Prop :=
  ∃ stamp before letters after,
    StampText.IsFirst stamp before letters after (Text.trimChars raw.toList) ∧
      Spells stamp.month 2 ∧ Spells stamp.day 29

theorem namesLeapDay_iff {raw : String} :
    NamesLeapDay raw ↔ ∃ stamp ∈ StampText.first? (Text.trimChars raw.toList),
      Text.natOfDigits? stamp.month = some 2 ∧ Text.natOfDigits? stamp.day = some 29 := by
  simp only [Option.mem_def, StampText.first?_eq_some_iff, Text.natOfDigits?_eq_some_iff]
  constructor
  · rintro ⟨stamp, before, letters, after, hfirst, hday⟩
    exact ⟨stamp, ⟨before, letters, after, hfirst⟩, hday⟩
  · rintro ⟨stamp, ⟨before, letters, after, hfirst⟩, hday⟩
    exact ⟨stamp, before, letters, after, hfirst, hday⟩

instance (raw : String) : Decidable (NamesLeapDay raw) :=
  decidable_of_iff _ namesLeapDay_iff.symm

/-- The value, moved to another year if it is a moment. -/
def inYear (year : Int) : CellValue → CellValue
  | .stamp moment => .stamp (moment.inYear year)
  | value => value

theorem year_of_read {year : Int} {raw : String} {moment : Stamp}
    (h : read year raw = .stamp moment) : moment.year = year := by
  unfold read at h
  dsimp only at h
  split at h
  · next moment' hread =>
    cases h
    obtain ⟨stamp, -, hresolve⟩ := Option.bind_eq_some_iff.1 hread
    obtain ⟨_, _, _, _, -, -, -, _, -, -, -, rfl⟩ := StampText.resolve?_eq_some_iff.1 hresolve
    rfl
  · split at h <;> cases h

section

variable {y₁ y₂ : Int} {raw left right : String} (h₁ : Supports y₁) (h₂ : Supports y₂)

include h₁ h₂

theorem read?_inYear (h : isLeap y₁ = isLeap y₂ ∨ ¬NamesLeapDay raw) :
    Stamp.read? y₂ (Text.trimChars raw.toList) =
      (Stamp.read? y₁ (Text.trimChars raw.toList)).map (Stamp.inYear y₂) := by
  unfold Stamp.read?
  cases hfirst : StampText.first? (Text.trimChars raw.toList) with
  | none => rfl
  | some stamp =>
    obtain ⟨before, letters, after, hstands⟩ := StampText.first?_eq_some_iff.1 hfirst
    refine StampText.resolve?_inYear h₁ h₂ (h.imp_right fun hother => ?_)
    rintro ⟨hmonth, hday⟩
    exact hother ⟨stamp, before, letters, after, hstands, hmonth, hday⟩

/-- A text that does not name 29 February reads the same in every year, and any text does in years
    of the same length. -/
theorem read_inYear (h : isLeap y₁ = isLeap y₂ ∨ ¬NamesLeapDay raw) :
    read y₂ raw = (read y₁ raw).inYear y₂ := by
  unfold read
  dsimp only
  rw [read?_inYear h₁ h₂ h]
  cases Stamp.read? y₁ (Text.trimChars raw.toList) with
  | some moment => rfl
  | none => cases Numeral.score? (Text.trimChars raw.toList) <;> rfl

theorem compare?_of_year (hl : isLeap y₁ = isLeap y₂ ∨ ¬NamesLeapDay left)
    (hr : isLeap y₁ = isLeap y₂ ∨ ¬NamesLeapDay right) :
    compare? y₁ left right = compare? y₂ left right := by
  unfold compare?
  rw [read_inYear h₁ h₂ hl, read_inYear h₁ h₂ hr]
  cases hleft : read y₁ left with
  | stamp s =>
    cases hright : read y₁ right with
    | stamp t =>
      have hyear : s.year = t.year := (year_of_read hleft).trans (year_of_read hright).symm
      exact congrArg some (Stamp.order_inYear hyear y₂).symm
    | number y => rfl
    | text l => rfl
  | number x => cases read y₁ right <;> rfl
  | text k => cases read y₁ right <;> rfl

end

example : compare? 2024 "2/29 9:00am" "1/1 9:00am" = some .gt ∧
    compare? 2023 "2/29 9:00am" "1/1 9:00am" = none := by
  decide +kernel

end CellValue

end Scoreboard
