import Scoreboard.Proofs.Cell.Order

/-!
# The order of values of one kind

Texts of one kind are compared by what they stand for: moments by time, numbers by value, plain
texts by key. Told apart by kind first, all values have one order, and it is transitive.

## Main definitions

- `CellValue.Kind` — what a text stands for: a moment, a number, or itself
- `CellValue.order` — the order of values, kind by kind

## Main statements

- `CellValue.compare?_eq_order` — texts of one kind are compared as their values
-/

namespace Scoreboard

namespace Stamp

instance : Std.TransCmp order :=
  inferInstanceAs (Std.TransCmp (compareLex (compareOn Stamp.year) <|
    compareLex (compareOn Stamp.month) <| compareLex (compareOn Stamp.day) <|
      compareLex (compareOn Stamp.hour) (compareOn Stamp.minute)))

theorem order_isLE_trans {s t u : Stamp} (hst : (s.order t).isLE = true)
    (htu : (t.order u).isLE = true) : (s.order u).isLE = true :=
  Std.TransCmp.isLE_trans hst htu

end Stamp

namespace CellValue

/-- The kinds of value. -/
inductive Kind where
  | moment
  | number
  | text
  deriving DecidableEq

/-- The kind of a value. -/
def kind : CellValue → Kind
  | .stamp _ => .moment
  | .number _ => .number
  | .text _ => .text

/-- The order of values: moments by time, numbers by value and plain texts by key. All moments stand
    before all numbers, and these before all plain texts. -/
def order : CellValue → CellValue → Ordering
  | .stamp s, .stamp t => s.order t
  | .stamp _, _ => .lt
  | _, .stamp _ => .gt
  | .number x, .number y => x.order y
  | .number _, _ => .lt
  | _, .number _ => .gt
  | .text k, .text l => compare k l

instance : Ord CellValue := ⟨order⟩

theorem order_swap (u v : CellValue) : order u v = (order v u).swap := by
  cases u with
  | stamp s =>
    cases v with
    | stamp t => exact Stamp.order_swap t s
    | number y => rfl
    | text l => rfl
  | number x =>
    cases v with
    | stamp t => rfl
    | number y => exact Finite.order_swap y x
    | text l => rfl
  | text k =>
    cases v with
    | stamp t => rfl
    | number y => rfl
    | text l => exact Std.OrientedOrd.eq_swap

theorem order_isLE_trans {u v w : CellValue} (huv : (order u v).isLE = true)
    (hvw : (order v w).isLE = true) : (order u w).isLE = true := by
  -- A value stands before those of later kinds, so only values of one kind are left to compare.
  cases u with
  | stamp s =>
    cases v with
    | stamp t =>
      cases w with
      | stamp u => exact Stamp.order_isLE_trans huv hvw
      | number z => rfl
      | text m => rfl
    | number y => cases w <;> first | rfl | cases hvw
    | text l => cases w <;> first | rfl | cases hvw
  | number x =>
    cases v with
    | stamp t => cases huv
    | number y =>
      cases w with
      | stamp u => cases hvw
      | number z => exact Finite.order_isLE_trans huv hvw
      | text m => rfl
    | text l => cases w <;> first | rfl | cases hvw
  | text k =>
    cases v with
    | stamp t => cases huv
    | number y => cases huv
    | text l =>
      cases w with
      | stamp u => cases hvw
      | number z => cases hvw
      | text m => exact Std.TransOrd.isLE_trans (α := String) huv hvw

instance : Std.TransOrd CellValue where
  eq_swap {u v} := order_swap u v
  isLE_trans {_ _ _} := order_isLE_trans

theorem eq_key_of_read {year : Int} {raw k : String} (h : read year raw = .text k) :
    k = key raw := by
  unfold read at h
  dsimp only at h
  split at h
  · cases h
  · split at h
    · cases h
    · exact (CellValue.text.inj h).symm

/-- Texts of one kind are compared as the values that they stand for. -/
theorem compare?_eq_order {year : Int} {left right : String}
    (h : (read year left).kind = (read year right).kind) :
    compare? year left right = some (compare (read year left) (read year right)) := by
  unfold compare?
  cases hl : read year left with
  | stamp s =>
    cases hr : read year right with
    | stamp t => rfl
    | number y => rw [hl, hr] at h; cases h
    | text l => rw [hl, hr] at h; cases h
  | number x =>
    cases hr : read year right with
    | stamp t => rw [hl, hr] at h; cases h
    | number y => rfl
    | text l => rw [hl, hr] at h; cases h
  | text k =>
    cases hr : read year right with
    | stamp t => rw [hl, hr] at h; cases h
    | number y => rw [hl, hr] at h; cases h
    | text l =>
      rw [← eq_key_of_read hl, ← eq_key_of_read hr]
      rfl

end CellValue

end Scoreboard
