/-!
# Binary floating-point numbers

Numbers of a binary format as exact integers: a finite number is a count of the steps of the finest
grid of its format, together with a sign.

## Main definitions

- `BinaryFormat` — how many bits a format keeps, how fine it is and where it ends
- `Finite` — a finite number of a format
- `Binary` — a number of a format: finite, infinite or no number
- `BinaryFormat.ofRatio` — a ratio rounded to nearest, a tie going to the even neighbour
- `Binary.bits` — the interchange encoding

## Design notes

Counting steps makes the order of numbers the order of integers and rounding a matter of dropping
bits: a magnitude of more than `precision` bits is rounded to a multiple of the power of two that
leaves `precision` of them. Subnormal numbers need no case of their own, since near zero no bit is
dropped.
-/

namespace Scoreboard

/-- A binary floating-point format. -/
structure BinaryFormat where
  precision : Nat
  /-- The finest grid has steps of `2 ^ -scale`. -/
  scale : Nat
  /-- Magnitudes stay below `2 ^ limit`. -/
  limit : Nat

/-- Double precision. -/
def binary64 : BinaryFormat := ⟨53, 1074, 1024⟩

/-- Single precision. -/
def binary32 : BinaryFormat := ⟨24, 149, 128⟩

/-- A finite number of a format. Zero keeps its sign. -/
structure Finite (format : BinaryFormat) where
  negative : Bool
  /-- The magnitude in steps of the finest grid. -/
  units : Nat
  deriving DecidableEq

/-- A number of a format. -/
inductive Binary (format : BinaryFormat) where
  | finite (number : Finite format)
  /-- Beyond the largest finite number. -/
  | infinite (negative : Bool)
  | nan
  deriving DecidableEq

/-- The ratio rounded to the nearest integer, a tie going to the even one. -/
def roundEven (num den : Nat) : Nat :=
  let quotient := num / den
  let rest := num % den
  if 2 * rest < den then quotient
  else if den < 2 * rest then quotient + 1
  else if quotient % 2 = 0 then quotient
  else quotient + 1

namespace Finite

variable {format : BinaryFormat}

/-- The number in steps of the finest grid. The two zeros agree. -/
def steps (x : Finite format) : Int :=
  if x.negative then -(x.units : Int) else x.units

/-- The order of the values. -/
def order (x y : Finite format) : Ordering :=
  compare x.steps y.steps

/-- Exchanging two numbers reverses their order. -/
theorem order_swap (x y : Finite format) : y.order x = (x.order y).swap := by
  simp only [order, Std.OrientedCmp.eq_swap (a := y.steps)]

end Finite

namespace BinaryFormat

/-- How many bits of a magnitude are beyond the precision. -/
def excess (format : BinaryFormat) (magnitude : Nat) : Nat :=
  magnitude.log2 + 1 - format.precision

/-- A ratio of steps rounded to a magnitude that the format can hold if it is large enough. -/
def roundUnits (format : BinaryFormat) (num den : Nat) : Nat :=
  let dropped := format.excess (num / den)
  roundEven num (den * Nat.pow 2 dropped) * Nat.pow 2 dropped

/-- The ratio `num / den` rounded to nearest even; infinite where the rounded magnitude reaches the
    limit. -/
def ofRatio (format : BinaryFormat) (negative : Bool) (num den : Nat) : Binary format :=
  let units := format.roundUnits (num * Nat.pow 2 format.scale) den
  if units < Nat.pow 2 (format.limit + format.scale) then .finite ⟨negative, units⟩
  else .infinite negative

/-- The weight of the sign in the encoding. -/
def signWeight (format : BinaryFormat) : Nat :=
  Nat.pow 2 (format.precision + format.limit.log2)

/-- The encoding of infinity. -/
def infinityBits (format : BinaryFormat) : Nat :=
  (2 * format.limit - 1) * Nat.pow 2 (format.precision - 1)

/-- The encoding of a magnitude: the exponent field counts the dropped bits, and the leading bit of
    a normal number carries into it. -/
def magnitudeBits (format : BinaryFormat) (units : Nat) : Nat :=
  let dropped := format.excess units
  dropped * Nat.pow 2 (format.precision - 1) + units / Nat.pow 2 dropped

end BinaryFormat

namespace Binary

variable {format : BinaryFormat}

/-- The interchange encoding; every number that is none has the quiet one. -/
def bits : Binary format → Nat
  | .finite x => (if x.negative then format.signWeight else 0) + format.magnitudeBits x.units
  | .infinite negative => (if negative then format.signWeight else 0) + format.infinityBits
  | .nan => format.infinityBits + Nat.pow 2 (format.precision - 2)

/-- The number in another format, rounded to nearest even. -/
def convert (target : BinaryFormat) : Binary format → Binary target
  | .finite x => target.ofRatio x.negative x.units (Nat.pow 2 format.scale)
  | .infinite negative => .infinite negative
  | .nan => .nan

end Binary

end Scoreboard
