import Scoreboard.Number.Binary
import Scoreboard.Text.Digit

/-!
# Scaled numbers

A quick way from digits to a number of a format, in the arithmetic of that format: the leading
digits that fit 64 bits are rounded, then multiplied or divided by a power of ten and rounded again.
Short numbers come out correctly rounded; long ones may be off in the last bit.

## Main definitions

- `Finite.mul`, `Finite.div` — products and quotients, rounded to nearest even
- `Scaled` — digits that fit 64 bits, and a power of ten
- `Scaled.ofParts` — the digits before and after a point
- `Scaled.toBinary` — the number of a format
-/

namespace Scoreboard

namespace Finite

variable {format : BinaryFormat}

/-- The product, rounded to nearest even. -/
def mul (x y : Finite format) : Binary format :=
  format.ofRatio (x.negative != y.negative) (x.units * y.units) (Nat.pow 2 (2 * format.scale))

/-- The quotient by a number other than zero, rounded to nearest even. -/
def div (x y : Finite format) : Binary format :=
  format.ofRatio (x.negative != y.negative) x.units y.units

end Finite

/-- The number `± digits * 10 ^ exponent`, whose digits fit 64 bits. -/
structure Scaled where
  /-- The sign, which zero keeps. -/
  negative : Bool
  /-- The digits as an integer. -/
  digits : Nat
  /-- The power of ten. -/
  exponent : Int
  deriving DecidableEq

namespace Scaled

/-- The number of digits that follow `n`, as far as it fits 64 bits, and how many are left over. -/
def fitDigits (n : Nat) : List Char → Nat × Nat
  | [] => (n, 0)
  | c :: cs =>
    let next := 10 * n + (Text.digitValue? c).getD 0
    if next < UInt64.size then fitDigits next cs else (n, (c :: cs).length)

/-- The number of the digits before and after a point and of an exponent. Digits before the point
    that do not fit still count as places; those after it do not. -/
def ofParts (negative : Bool) (whole fraction : List Char) (exponent : Int) : Scaled :=
  let (n, places) := fitDigits 0 whole
  let (n, unused) := fitDigits n fraction
  ⟨negative, n, places - (fraction.length - unused : Nat) + exponent⟩

/-- The greatest power of ten that is scaled by at once. -/
def powerLimit : Nat := 308

/-- A power of ten as a number of a format. -/
def power (format : BinaryFormat) (exponent : Nat) : Binary format :=
  format.ofRatio false (Nat.pow 10 exponent) 1

/-- A number scaled by a power of ten, which takes at most so many steps. Beyond the limit nothing
    but zero can be multiplied; what is to be divided is brought closer first. -/
def scale {format : BinaryFormat} : Nat → Binary format → Int → Binary format
  | steps + 1, .finite x, exponent =>
    if exponent.natAbs ≤ powerLimit then
      match power format exponent.natAbs with
      | .finite p => if 0 ≤ exponent then x.mul p else x.div p
      | other => other
    else if x.units = 0 then .finite x
    else if 0 ≤ exponent then .infinite x.negative
    else
      match power format powerLimit with
      | .finite p => scale steps (x.div p) (exponent + powerLimit)
      | other => other
  | _, x, _ => x

/-- The number of a format. Three steps are enough, since the second one leaves nothing but zero of
    64 bits. -/
def toBinary (format : BinaryFormat) (x : Scaled) : Binary format :=
  scale 3 (format.ofRatio x.negative x.digits 1) x.exponent

end Scaled

end Scoreboard
