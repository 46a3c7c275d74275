import Scoreboard.Proofs.Cell.Key

/-!
# The order of numbers and plain texts

Numbers are ordered by value, and everything else by keys. The two orders need not agree: a plain
text may stand, by its key, between two numbers whose values are the other way round. This is the
only way in which the order of such texts can fail to be transitive.

## Main definitions

- `CellValue.Between` — plain text that stands between two numbers

## Main statements

- `CellValue.compare?_isLE_trans` — the order is transitive unless a text stands between two numbers
-/

namespace Scoreboard

namespace Finite

variable {format : BinaryFormat}

theorem order_isLE_trans {x y z : Finite format} (hxy : (x.order y).isLE = true)
    (hyz : (y.order z).isLE = true) : (x.order z).isLE = true :=
  Std.TransOrd.isLE_trans hxy hyz

end Finite

namespace CellValue

/-- The value is a number. -/
def isNumber : CellValue → Bool
  | .number _ => true
  | _ => false

/-- The value is plain text. -/
def isText : CellValue → Bool
  | .text _ => true
  | _ => false

/-- Plain text stands, by its key, between two numbers. -/
structure Between (year : Int) (low middle high : String) : Prop where
  /-- The lower text is a number. -/
  low_number : (read year low).isNumber = true
  /-- The text in the middle is plain. -/
  middle_text : (read year middle).isText = true
  /-- The higher text is a number. -/
  high_number : (read year high).isNumber = true
  /-- The text in the middle stands after the lower number. -/
  low_lt : compare (key low) (key middle) = .lt
  /-- It stands before the higher one. -/
  lt_high : compare (key middle) (key high) = .lt

instance (year : Int) (low middle high : String) : Decidable (Between year low middle high) :=
  decidable_of_iff ((read year low).isNumber = true ∧ (read year middle).isText = true ∧
      (read year high).isNumber = true ∧ compare (key low) (key middle) = .lt ∧
      compare (key middle) (key high) = .lt)
    ⟨fun ⟨hl, hm, hh, hlm, hmh⟩ => ⟨hl, hm, hh, hlm, hmh⟩,
      fun ⟨hl, hm, hh, hlm, hmh⟩ => ⟨hl, hm, hh, hlm, hmh⟩⟩

variable {year : Int} {left right : String}

theorem exists_number {value : CellValue} (h : value.isNumber = true) :
    ∃ x, value = .number x := by
  cases value with
  | stamp moment => cases h
  | number x => exact ⟨x, rfl⟩
  | text k => cases h

theorem exists_text {value : CellValue} (h : value.isText = true) : ∃ k, value = .text k := by
  cases value with
  | stamp moment => cases h
  | number x => cases h
  | text k => exact ⟨k, rfl⟩

theorem isStamp_of_isNumber {value : CellValue} (h : value.isNumber = true) :
    value.isStamp = false := by
  obtain ⟨x, rfl⟩ := exists_number h
  rfl

theorem isStamp_of_isText {value : CellValue} (h : value.isText = true) :
    value.isStamp = false := by
  obtain ⟨k, rfl⟩ := exists_text h
  rfl

theorem number_or_text {value : CellValue} (h : value.isStamp = false) :
    value.isNumber = true ∨ value.isText = true := by
  cases value with
  | stamp moment => cases h
  | number x => exact .inl rfl
  | text k => exact .inr rfl

theorem compare?_number {x y : Finite binary64} (hl : read year left = .number x)
    (hr : read year right = .number y) : compare? year left right = some (x.order y) := by
  simp only [compare?, hl, hr]

/-- Plain text is ordered by its key against whatever is no moment. -/
theorem compare?_text_left (hl : (read year left).isText = true)
    (hr : (read year right).isStamp = false) :
    compare? year left right = some (compare (key left) (key right)) := by
  obtain ⟨k, hk⟩ := exists_text hl
  rcases number_or_text hr with hrn | hrt
  · obtain ⟨y, hy⟩ := exists_number hrn
    simp only [compare?, hk, hy]
  · obtain ⟨l, hl⟩ := exists_text hrt
    simp only [compare?, hk, hl]

theorem compare?_text_right (hl : (read year left).isStamp = false)
    (hr : (read year right).isText = true) :
    compare? year left right = some (compare (key left) (key right)) := by
  rw [compare?_swap year right left, compare?_text_left hr hl, Option.map_some,
    ← Std.OrientedOrd.eq_swap]

/-- Any two texts that are no moments have an order. -/
theorem exists_compare? (hl : (read year left).isStamp = false)
    (hr : (read year right).isStamp = false) : ∃ o, compare? year left right = some o := by
  rcases number_or_text hl with hln | hlt
  · rcases number_or_text hr with hrn | hrt
    · obtain ⟨x, hx⟩ := exists_number hln
      obtain ⟨y, hy⟩ := exists_number hrn
      exact ⟨x.order y, compare?_number hx hy⟩
    · exact ⟨_, compare?_text_right hl hrt⟩
  · exact ⟨_, compare?_text_left hlt hr⟩

/-- A number and plain text have different keys. -/
theorem key_ne (hl : (read year left).isNumber = true) (hr : (read year right).isText = true) :
    key left ≠ key right := by
  intro heq
  have hsame : read year left = read year right := by
    rw [read_eq_ofKey (isStamp_of_isNumber hl), read_eq_ofKey (isStamp_of_isText hr), heq]
  obtain ⟨x, hx⟩ := exists_number hl
  obtain ⟨k, hk⟩ := exists_text hr
  rw [hx, hk] at hsame
  cases hsame

theorem key_lt_of_isLE (hne : key left ≠ key right)
    (h : (compare (key left) (key right)).isLE = true) : compare (key left) (key right) = .lt := by
  cases hc : compare (key left) (key right) with
  | lt => rfl
  | eq => exact absurd (Std.LawfulEqOrd.eq_of_compare hc) hne
  | gt => rw [hc] at h; cases h

theorem key_lt_of_not_isLE (h : ¬ (compare (key left) (key right)).isLE = true) :
    compare (key right) (key left) = .lt := by
  rw [Std.OrientedOrd.eq_swap (a := key right)]
  cases hc : compare (key left) (key right) with
  | lt => rw [hc] at h; exact absurd rfl h
  | eq => rw [hc] at h; exact absurd rfl h
  | gt => rfl

theorem compare?_reverse {o : Ordering} (h : compare? year left right = some o) :
    compare? year right left = some o.swap := by
  rw [compare?_swap, h]
  rfl

theorem compare?_ne_lt_of_isLE {o : Ordering} (h : compare? year left right = some o)
    (ho : o.isLE = true) : compare? year right left ≠ some .lt := by
  rw [compare?_reverse h]
  cases o with
  | lt => decide
  | eq => decide
  | gt => cases ho

section

variable {a b c : String}
  (ha : (read year a).isStamp = false) (hb : (read year b).isStamp = false)
  (hc : (read year c).isStamp = false)
  {o p q : Ordering} (hab : compare? year a b = some o) (hbc : compare? year b c = some p)
  (hac : compare? year a c = some q) (ho : o.isLE = true) (hp : p.isLE = true)

include ha hc hab hbc hac ho hp

/-- The order goes on past plain text, except between two numbers that the text stands between. -/
theorem isLE_trans_of_text (hbt : (read year b).isText = true)
    (habc : Between year a b c → compare? year a c = some .lt) : q.isLE = true := by
  rw [compare?_text_right ha hbt, Option.some_inj] at hab
  rw [compare?_text_left hbt hc, Option.some_inj] at hbc
  subst hab hbc
  have hkeys : (compare (key a) (key c)).isLE = true := Std.TransOrd.isLE_trans ho hp
  rcases number_or_text ha with han | hat
  · rcases number_or_text hc with hcn | hct
    · have hbetween : Between year a b c :=
        ⟨han, hbt, hcn, key_lt_of_isLE (key_ne han hbt) ho,
          key_lt_of_isLE (key_ne hcn hbt).symm hp⟩
      rw [habc hbetween, Option.some_inj] at hac
      rw [← hac]
      decide
    · rw [compare?_text_right ha hct, Option.some_inj] at hac
      rw [← hac]
      exact hkeys
  · rw [compare?_text_left hat hc, Option.some_inj] at hac
    rw [← hac]
    exact hkeys

include hb

/-- The order goes on past a number, except from or to plain text that stands between it and the
    number at the other end. -/
theorem isLE_trans_of_number (hbn : (read year b).isNumber = true)
    (hbca : Between year b c a → compare? year b a = some .lt)
    (hcab : Between year c a b → compare? year c b = some .lt) : q.isLE = true := by
  rcases number_or_text ha with han | hat
  · rcases number_or_text hc with hcn | hct
    · obtain ⟨x, hx⟩ := exists_number han
      obtain ⟨y, hy⟩ := exists_number hbn
      obtain ⟨z, hz⟩ := exists_number hcn
      rw [compare?_number hx hy, Option.some_inj] at hab
      rw [compare?_number hy hz, Option.some_inj] at hbc
      rw [compare?_number hx hz, Option.some_inj] at hac
      subst hab hbc hac
      exact Finite.order_isLE_trans ho hp
    · rw [compare?_text_right hb hct, Option.some_inj] at hbc
      rw [compare?_text_right ha hct, Option.some_inj] at hac
      subst hbc hac
      -- Otherwise the text at the end stands between the two numbers, which are in order.
      by_cases hkeys : (compare (key a) (key c)).isLE = true
      · exact hkeys
      · have hbetween : Between year b c a :=
          ⟨hbn, hct, han, key_lt_of_isLE (key_ne hbn hct) hp, key_lt_of_not_isLE hkeys⟩
        exact absurd (hbca hbetween) (compare?_ne_lt_of_isLE hab ho)
  · rw [compare?_text_left hat hb, Option.some_inj] at hab
    rw [compare?_text_left hat hc, Option.some_inj] at hac
    rcases number_or_text hc with hcn | hct
    · subst hab hac
      -- Otherwise the text at the front does.
      by_cases hkeys : (compare (key a) (key c)).isLE = true
      · exact hkeys
      · have hbetween : Between year c a b :=
          ⟨hcn, hat, hbn, key_lt_of_not_isLE hkeys, key_lt_of_isLE (key_ne hbn hat).symm ho⟩
        exact absurd (hcab hbetween) (compare?_ne_lt_of_isLE hbc hp)
    · rw [compare?_text_right hb hct, Option.some_inj] at hbc
      subst hab hbc hac
      exact Std.TransOrd.isLE_trans ho hp

/-- Among numbers and plain texts, the order is transitive unless, going round, one of the three is
    plain and stands between two numbers whose values are not in the order of their keys. -/
theorem compare?_isLE_trans (habc : Between year a b c → compare? year a c = some .lt)
    (hbca : Between year b c a → compare? year b a = some .lt)
    (hcab : Between year c a b → compare? year c b = some .lt) : q.isLE = true := by
  rcases number_or_text hb with hbn | hbt
  · exact isLE_trans_of_number ha hb hc hab hbc hac ho hp hbn hbca hcab
  · exact isLE_trans_of_text ha hc hab hbc hac ho hp hbt habc

end

end CellValue

end Scoreboard
