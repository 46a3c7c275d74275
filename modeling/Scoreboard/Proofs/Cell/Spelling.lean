import Scoreboard.Proofs.Cell.Kind
import Scoreboard.Proofs.Cell.Stamp
import Scoreboard.Proofs.Text.Spelling

/-!
# Spelling plays no part

Cells whose texts differ in white space at the ends and in the case of ASCII letters stand for the
same value. Case could tell in three places: the half of the day in a stamp, the letter of an
exponent, and the key, in which a sigma looks at the letters next to it.

## Main statements

- `StampText.first?_map_toLower` — the stamps of a text are found in either case
- `CellValue.key_eq_of_spellsAlike`, `CellValue.read_eq_of_spellsAlike` — what they stand for
- `CellValue.compare?_of_spellsAlike` — such texts have the same order
-/

namespace Scoreboard

open Text (SpellsAlike)

namespace StampText

theorem toLower_of_isDecimalDigit {c : Char} (h : Text.isDecimalDigit c = true) :
    c.toLower = c := by
  by_cases hc : c.toNat < 128
  · have hascii : Text.isDecimalDigit c = true → c.toLower = c := by
      apply Text.forall_ascii _ hc
      decide
    exact hascii h
  · exact Text.toLower_of_beyond hc

/-- Digits have no case, and what is no digit is none in either case. -/
theorem digits_map_toLower (cs : List Char) :
    (cs.map Char.toLower).takeWhile Text.isDecimalDigit = cs.takeWhile Text.isDecimalDigit ∧
      (cs.map Char.toLower).dropWhile Text.isDecimalDigit =
        (cs.dropWhile Text.isDecimalDigit).map Char.toLower := by
  have hdigit : Text.isDecimalDigit ∘ Char.toLower = Text.isDecimalDigit :=
    funext Text.isDecimalDigit_toLower
  rw [List.takeWhile_map, List.dropWhile_map, hdigit]
  refine ⟨?_, rfl⟩
  have hkept : ∀ c ∈ cs.takeWhile Text.isDecimalDigit, c.toLower = c := fun c hc =>
    toLower_of_isDecimalDigit (List.mem_takeWhile_imp hc)
  rw [List.map_congr_left hkept, List.map_id']

/-- A part of a stamp is found in either case, and what comes after it is the same but for case. -/
theorem digitsThen?_map_toLower {close : Char} (hclose : ∀ c : Char, c.toLower = close ↔ c = close)
    (cs : List Char) :
    digitsThen? close (cs.map Char.toLower) =
      (digitsThen? close cs).map fun found => (found.1, found.2.map Char.toLower) := by
  obtain ⟨htake, hdrop⟩ := digits_map_toLower cs
  unfold digitsThen?
  rw [htake, hdrop]
  cases cs.takeWhile Text.isDecimalDigit with
  | nil => rfl
  | cons d ds =>
    cases cs.dropWhile Text.isDecimalDigit with
    | nil => rfl
    | cons c rest =>
      simp only [List.map_cons, hclose]
      split <;> rfl

theorem digits?_map_toLower (cs : List Char) :
    digits? (cs.map Char.toLower) =
      (digits? cs).map fun found => (found.1, found.2.map Char.toLower) := by
  obtain ⟨htake, hdrop⟩ := digits_map_toLower cs
  unfold digits?
  rw [htake, hdrop]
  cases cs.takeWhile Text.isDecimalDigit <;> rfl

/-- The half of the day is read in either case. -/
theorem half?_map_toLower (cs : List Char) : half? (cs.map Char.toLower) = half? cs := by
  have hm (c : Char) : (c.toLower = 'm' ∨ c.toLower = 'M') ↔ (c = 'm' ∨ c = 'M') :=
    Text.iff_toLower (fun c => c = 'm' ∨ c = 'M') (by decide) c
  have ha (c : Char) : (c.toLower = 'a' ∨ c.toLower = 'A') ↔ (c = 'a' ∨ c = 'A') :=
    Text.iff_toLower (fun c => c = 'a' ∨ c = 'A') (by decide) c
  have hp (c : Char) : (c.toLower = 'p' ∨ c.toLower = 'P') ↔ (c = 'p' ∨ c = 'P') :=
    Text.iff_toLower (fun c => c = 'p' ∨ c = 'P') (by decide) c
  unfold half?
  match cs with
  | [] => rfl
  | [_] => rfl
  | a :: m :: _ => simp only [List.map_cons, Bool.or_eq_true, decide_eq_true_eq, hm, ha, hp]

/-- A stamp at the front of a text is read in either case. -/
theorem atFront?_map_toLower (cs : List Char) :
    atFront? (cs.map Char.toLower) = atFront? cs := by
  have hslash : ∀ c : Char, c.toLower = '/' ↔ c = '/' := Text.iff_toLower (· = '/') (by decide)
  have hspace : ∀ c : Char, c.toLower = ' ' ↔ c = ' ' := Text.iff_toLower (· = ' ') (by decide)
  have hcolon : ∀ c : Char, c.toLower = ':' ↔ c = ':' := Text.iff_toLower (· = ':') (by decide)
  simp only [atFront?, digitsThen?_map_toLower hslash, digitsThen?_map_toLower hspace,
    digitsThen?_map_toLower hcolon, digits?_map_toLower, half?_map_toLower, Option.bind_eq_bind,
    Option.bind_map, Function.comp_def]

/-- The first stamp of a text is the same in either case. -/
theorem first?_map_toLower (cs : List Char) : first? (cs.map Char.toLower) = first? cs := by
  induction cs with
  | nil => rfl
  | cons c cs ih =>
    have hfront := atFront?_map_toLower (c :: cs)
    rw [List.map_cons] at hfront ⊢
    rw [first?, first?, hfront, ih]

end StampText

namespace CellValue

variable {raw raw' : String}

/-- Texts that spell alike have the same key. -/
theorem key_eq_of_spellsAlike (h : SpellsAlike raw raw') : key raw = key raw' := by
  have hkey (s : String) :
      key s = String.ofList (Text.lowerChars [] ((Text.trimChars s.toList).map Char.toLower)) := by
    have hcase := Text.lowerChars_map_toLower [] (Text.trimChars s.toList)
    rw [List.map_nil] at hcase
    unfold key Text.lower Text.trim
    rw [String.toList_ofList, hcase]
  rw [hkey, hkey, h.trimChars_eq]

/-- Texts that spell alike have the same moment, if they have one. -/
theorem read?_eq_of_spellsAlike (year : Int) (h : SpellsAlike raw raw') :
    Stamp.read? year (Text.trimChars raw.toList) =
      Stamp.read? year (Text.trimChars raw'.toList) := by
  unfold Stamp.read?
  rw [← StampText.first?_map_toLower, h.trimChars_eq, StampText.first?_map_toLower]

/-- Texts that spell alike name the same number, if they name one, since their keys do. -/
theorem score?_eq_of_spellsAlike (h : SpellsAlike raw raw') :
    Numeral.score? (Text.trimChars raw.toList) = Numeral.score? (Text.trimChars raw'.toList) := by
  have hscore (s : String) :
      Numeral.score? (Text.trimChars s.toList) = Numeral.score? (key s).toList := by
    unfold key Text.lower Text.trim
    rw [String.toList_ofList, String.toList_ofList, Numeral.score?_lowerChars]
  rw [hscore, hscore, key_eq_of_spellsAlike h]

/-- Texts that spell alike stand for the same value. -/
theorem read_eq_of_spellsAlike (year : Int) (h : SpellsAlike raw raw') :
    read year raw = read year raw' := by
  unfold read
  dsimp only
  rw [read?_eq_of_spellsAlike year h, score?_eq_of_spellsAlike h, key_eq_of_spellsAlike h]

/-- White space at the ends of two texts and the case of their ASCII letters play no part in the
    order of the texts, nor in what kind of value each of them stands for. -/
theorem compare?_of_spellsAlike (year : Int) {left left' right right' : String}
    (hl : SpellsAlike left left') (hr : SpellsAlike right right') :
    compare? year left' right' = compare? year left right ∧
      (read year left').kind = (read year left).kind ∧
      (read year right').kind = (read year right).kind := by
  have hleft := read_eq_of_spellsAlike year hl
  have hright := read_eq_of_spellsAlike year hr
  refine ⟨?_, by rw [hleft], by rw [hright]⟩
  unfold compare?
  rw [hleft, hright, key_eq_of_spellsAlike hl, key_eq_of_spellsAlike hr]

/-- A number with an exponent against a word that ends with a sigma after an ASCII letter. -/
theorem compare?_of_spellsAlike_sigma :
    SpellsAlike "1E2 strokes" "\u00a01e2 STROKES" ∧ SpellsAlike "AΣ" "aΣ\t" ∧
      compare? 2025 "\u00a01e2 STROKES" "aΣ\t" = compare? 2025 "1E2 strokes" "AΣ" ∧
      (read 2025 "\u00a01e2 STROKES").kind = (read 2025 "1E2 strokes").kind ∧
      (read 2025 "aΣ\t").kind = (read 2025 "AΣ").kind := by
  have hl : SpellsAlike "1E2 strokes" "\u00a01e2 STROKES" :=
    ⟨"1E2 strokes".toList, "1e2 STROKES".toList, ⟨[], [], nofun, nofun, rfl⟩,
      ⟨['\u00a0'], [], List.forall_mem_singleton.2 rfl, nofun, rfl⟩, by decide⟩
  have hr : SpellsAlike "AΣ" "aΣ\t" :=
    ⟨['A', 'Σ'], ['a', 'Σ'], ⟨[], [], nofun, nofun, rfl⟩,
      ⟨[], ['\t'], nofun, List.forall_mem_singleton.2 rfl, rfl⟩, by decide⟩
  exact ⟨hl, hr, compare?_of_spellsAlike 2025 hl hr⟩

example : read 2025 "\u00a01e2 STROKES" = .number ⟨false, 100 * 2 ^ 1074⟩ ∧
    read 2025 "aΣ\t" = .text "aς" ∧ read 2025 "Σ" = .text "σ" := by
  decide +kernel

end CellValue

end Scoreboard
