import Scoreboard.Number.Binary

/-!
# Decimal numbers

## Main definitions

- `Decimal` — a sign, an integer and a power of ten
- `Decimal.toBinary` — the correctly rounded number of a binary format

## Design notes

A power of ten is not computed where it cannot matter: an exponent at or above the format's limit
makes any nonzero integer infinite, and one far enough below its scale makes it zero.
-/

namespace Scoreboard

/-- The number `± digits * 10 ^ exponent`. -/
structure Decimal where
  /-- The sign, which zero keeps. -/
  negative : Bool
  /-- The digits as an integer. -/
  digits : Nat
  /-- The power of ten. -/
  exponent : Int
  deriving DecidableEq

namespace Decimal

/-- The correctly rounded number of a binary format. -/
def toBinary (format : BinaryFormat) (d : Decimal) : Binary format :=
  if d.digits = 0 then
    .finite ⟨d.negative, 0⟩
  else
    match d.exponent with
    | .ofNat e =>
      if format.limit ≤ e then .infinite d.negative
      else format.ofRatio d.negative (d.digits * Nat.pow 10 e) 1
    | .negSucc e =>
      if d.digits.log2 + format.scale + 1 ≤ e then .finite ⟨d.negative, 0⟩
      else format.ofRatio d.negative d.digits (Nat.pow 10 (e + 1))

end Decimal

end Scoreboard
