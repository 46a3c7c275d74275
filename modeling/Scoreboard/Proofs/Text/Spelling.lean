import Mathlib.Data.List.Basic
import Mathlib.Data.List.TakeWhile
import Scoreboard.Proofs.Text.Lower
import Scoreboard.Text.Blank

/-!
# Spellings of a text

Two texts spell the same if they differ in nothing but white space at their ends and the case of
ASCII letters. Trimmed and with their ASCII letters in lower case, such texts are one and the same.

## Main definitions

- `Text.Padded` — characters with white space around them
- `Text.SpellsAlike` — texts that differ in white space at their ends and in ASCII case at most

## Main statements

- `Text.apply_toLower` — a test that ASCII letters pass in both cases or in neither
- `Text.lowerChars_map_toLower` — ASCII case plays no part in lower-casing, not even of a sigma
- `Text.SpellsAlike.trimChars_eq` — texts that spell alike are trimmed to the same, but for case
-/

namespace Scoreboard.Text

/-- Characters with white space before and after them, or on one side, or none at all. -/
def Padded (core text : List Char) : Prop :=
  ∃ front back, (∀ c ∈ front, isBlank c = true) ∧ (∀ c ∈ back, isBlank c = true) ∧
    text = front ++ core ++ back

/-- The texts differ in nothing but white space at their ends and the case of ASCII letters. -/
def SpellsAlike (s t : String) : Prop :=
  ∃ core core', Padded core s.toList ∧ Padded core' t.toList ∧
    core.map Char.toLower = core'.map Char.toLower

/-- A function that does not tell the cases of an ASCII letter apart can be told from ASCII. -/
theorem apply_toLower {β : Type} {f : Char → β}
    (hascii : ∀ n : Fin 128, f (Char.ofNat n).toLower = f (Char.ofNat n)) (c : Char) :
    f c.toLower = f c := by
  by_cases hc : c.toNat < 128
  · apply forall_ascii _ hc
    exact hascii
  · rw [toLower_of_beyond hc]

theorem iff_toLower (p : Char → Prop)
    (hascii : ∀ n : Fin 128, p (Char.ofNat n).toLower ↔ p (Char.ofNat n)) (c : Char) :
    p c.toLower ↔ p c :=
  iff_of_eq (apply_toLower (fun n => propext (hascii n)) c)

theorem isBlank_toLower (c : Char) : isBlank c.toLower = isBlank c :=
  apply_toLower (by decide) c

theorem isDecimalDigit_toLower (c : Char) : isDecimalDigit c.toLower = isDecimalDigit c :=
  apply_toLower (by decide) c

theorem isCased_toLower (c : Char) : isCased c.toLower = isCased c :=
  apply_toLower (by decide) c

theorem isCaseIgnorable_toLower (c : Char) : isCaseIgnorable c.toLower = isCaseIgnorable c :=
  apply_toLower (by decide) c

theorem lowerChar_toLower (c : Char) : lowerChar c.toLower = lowerChar c :=
  apply_toLower (by decide) c

theorem isSigma_toLower (c : Char) : c.toLower.toNat = 0x3a3 ↔ c.toNat = 0x3a3 :=
  iff_toLower (fun c => c.toNat = 0x3a3) (by decide) c

/-- A letter has case in either case, so a sigma finds the same neighbours. -/
theorem meetsCased_map_toLower (cs : List Char) :
    meetsCased (cs.map Char.toLower) = meetsCased cs := by
  unfold meetsCased
  have hskip : isCaseIgnorable ∘ Char.toLower = isCaseIgnorable := funext isCaseIgnorable_toLower
  rw [List.dropWhile_map, hskip]
  cases cs.dropWhile isCaseIgnorable with
  | nil => rfl
  | cons c rest => exact isCased_toLower c

/-- ASCII letters are lower-cased alike from either case, and so is what stands between them. -/
theorem lowerChars_map_toLower (before cs : List Char) :
    lowerChars (before.map Char.toLower) (cs.map Char.toLower) = lowerChars before cs := by
  induction cs generalizing before with
  | nil => rfl
  | cons c cs ih =>
    have hrest := ih (c :: before)
    rw [List.map_cons] at hrest
    have hends : endsWord (before.map Char.toLower) (cs.map Char.toLower) = endsWord before cs := by
      unfold endsWord
      rw [meetsCased_map_toLower, meetsCased_map_toLower]
    simp only [List.map_cons, lowerChars, isSigma_toLower, lowerChar_toLower, hends, hrest]

theorem trimStartChars_map_toLower (cs : List Char) :
    trimStartChars (cs.map Char.toLower) = (trimStartChars cs).map Char.toLower := by
  have hblank : isBlank ∘ Char.toLower = isBlank := funext isBlank_toLower
  unfold trimStartChars
  rw [List.dropWhile_map, hblank]

theorem trimEndChars_eq (cs : List Char) :
    trimEndChars cs = (trimStartChars cs.reverse).reverse :=
  rfl

theorem trimChars_map_toLower (cs : List Char) :
    trimChars (cs.map Char.toLower) = (trimChars cs).map Char.toLower := by
  unfold trimChars
  rw [trimStartChars_map_toLower, trimEndChars_eq, trimEndChars_eq, ← List.map_reverse,
    trimStartChars_map_toLower, List.map_reverse]

theorem trimEndChars_append {back : List Char} (hback : ∀ c ∈ back, isBlank c = true)
    (cs : List Char) : trimEndChars (cs ++ back) = trimEndChars cs := by
  unfold trimEndChars
  rw [List.reverse_append, List.dropWhile_append_of_pos]
  intro c hc
  exact hback c (List.mem_reverse.1 hc)

/-- White space around characters is trimmed away. -/
theorem Padded.trimChars_eq {core text : List Char} (h : Padded core text) :
    trimChars text = trimChars core := by
  obtain ⟨front, back, hfront, hback, rfl⟩ := h
  unfold trimChars trimStartChars
  rw [List.append_assoc, List.dropWhile_append_of_pos hfront, List.dropWhile_append]
  split
  · next hempty =>
    -- Where the characters are white space themselves, nothing is left.
    rw [List.isEmpty_iff.1 hempty, List.dropWhile_eq_nil_iff.2 hback]
  · exact trimEndChars_append hback _

theorem isBlank_of_isDigit {c : Char} (hc : c.isDigit = true) : isBlank c = false := by
  have hbounds : 48 ≤ c.toNat ∧ c.toNat ≤ 57 := Char.isDigit_iff_toNat.1 hc
  simp only [isBlank, Bool.or_eq_false_iff, Bool.and_eq_false_iff, decide_eq_false_iff_not]
  omega

theorem trimChars_of_forall {cs : List Char} (h : ∀ c ∈ cs, isBlank c = false) :
    trimChars cs = cs := by
  have hkept : ∀ cs : List Char, (∀ c ∈ cs, isBlank c = false) → cs.dropWhile isBlank = cs := by
    intro cs h
    cases cs with
    | nil => rfl
    | cons c cs => exact List.dropWhile_cons_of_neg (by simp [h c List.mem_cons_self])
  unfold trimChars trimStartChars trimEndChars
  rw [hkept cs h, hkept cs.reverse fun c hc => h c (List.mem_reverse.1 hc), List.reverse_reverse]

/-- What trimming takes away is white space. -/
theorem padded_trimChars (cs : List Char) : Padded (trimChars cs) cs := by
  have hblank : ∀ {cs : List Char}, ∀ c ∈ cs.takeWhile isBlank, isBlank c = true :=
    fun _ hc => List.mem_takeWhile_imp hc
  refine ⟨cs.takeWhile isBlank, ((trimStartChars cs).reverse.takeWhile isBlank).reverse, hblank,
    fun c hc => hblank c (List.mem_reverse.1 hc), ?_⟩
  unfold trimChars trimEndChars
  rw [List.append_assoc, ← List.reverse_append, List.takeWhile_append_dropWhile,
    List.reverse_reverse]
  exact (List.takeWhile_append_dropWhile).symm

theorem SpellsAlike.trimChars_eq {s t : String} (h : SpellsAlike s t) :
    (trimChars s.toList).map Char.toLower = (trimChars t.toList).map Char.toLower := by
  obtain ⟨core, core', hs, ht, hcase⟩ := h
  rw [hs.trimChars_eq, ht.trimChars_eq, ← trimChars_map_toLower, ← trimChars_map_toLower, hcase]

end Scoreboard.Text
