import Scoreboard.Proofs.Cell.Kind
import Scoreboard.Sort.Comparison

/-!
# The laws of a comparison

Which rule compares two texts depends on what each of them stands for. Every rule gives the same
answer whichever text stands on the left, and within a kind only one rule applies.

## Main statements

- `CellValue.compare?_eq_none_iff` — only a moment and something else have no order
- `CellValue.compare?_laws` — exchanging two texts reverses their order, which is transitive in a
  kind
-/

namespace Scoreboard

namespace CellValue

variable {year : Int} {a b c left right : String}

/-- A text ties with itself. -/
theorem compare?_self (year : Int) (raw : String) : compare? year raw raw = some .eq := by
  rw [compare?_eq_order rfl, Std.ReflOrd.compare_self]

theorem compare?_eq_none_iff :
    compare? year left right = none ↔ (read year left).isStamp ≠ (read year right).isStamp := by
  unfold compare?
  cases read year left with
  | stamp s => cases read year right <;> simp [isStamp]
  | number x => cases read year right <;> simp [isStamp]
  | text k => cases read year right <;> simp [isStamp]

theorem compare?_ne_gt_iff (h : (read year left).kind = (read year right).kind) :
    compare? year left right ≠ some .gt ↔
      (compare (read year left) (read year right)).isLE = true := by
  rw [compare?_eq_order h, Ordering.isLE_iff_ne_gt]
  exact not_congr Option.some_inj

/-- Within a kind, what does not stand after its neighbour does not stand after the next one. -/
theorem compare?_ne_gt_trans (hkind : (read year a).kind = (read year b).kind)
    (hkind' : (read year b).kind = (read year c).kind) (hab : compare? year a b ≠ some .gt)
    (hbc : compare? year b c ≠ some .gt) : compare? year a c ≠ some .gt := by
  rw [compare?_ne_gt_iff hkind] at hab
  rw [compare?_ne_gt_iff hkind'] at hbc
  rw [compare?_ne_gt_iff (hkind.trans hkind')]
  exact Std.TransOrd.isLE_trans hab hbc

/-- Exchanging two texts reverses their order, a text ties with itself, and only a moment and
    something else have no order. Among texts of one kind, not to stand after is transitive. So no
    two rows are out of order both ways round. -/
theorem compare?_laws (year : Int) :
    (∀ left right, compare? year right left = (compare? year left right).map Ordering.swap) ∧
    (∀ raw, compare? year raw raw = some .eq) ∧
    (∀ left right, compare? year left right = none ↔
      (read year left).isStamp ≠ (read year right).isStamp) ∧
    (∀ a b c, (read year a).kind = (read year b).kind → (read year b).kind = (read year c).kind →
      compare? year a b ≠ some .gt → compare? year b c ≠ some .gt → compare? year a c ≠ some .gt) ∧
    ∀ column offset direction upper lower,
      ¬(Comparison.outOfOrder ⟨column, offset, year⟩ direction upper lower = true ∧
        Comparison.outOfOrder ⟨column, offset, year⟩ direction lower upper = true) := by
  refine ⟨compare?_swap year, compare?_self year, fun left right => compare?_eq_none_iff,
    fun a b c => compare?_ne_gt_trans, fun column offset direction upper lower => ?_⟩
  rintro ⟨hupper, hlower⟩
  rw [Comparison.outOfOrder_asymm _ direction upper lower hupper] at hlower
  cases hlower

/-- Numbers that are spelled in different ways, of which the first two tie. -/
theorem compare?_laws_spellings : compare? 2024 "-0" "1e-3 (T2)" ≠ some .gt := by
  refine (compare?_laws 2024).2.2.2.1 "-0" " +.0" "1e-3 (T2)" ?_ ?_ ?_ ?_
  · decide +kernel
  · decide +kernel
  · decide +kernel
  · decide +kernel

end CellValue

end Scoreboard
