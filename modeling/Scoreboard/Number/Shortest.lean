import Scoreboard.Number.Decimal

/-!
# The shortest decimal of a binary number

## Main definitions

- `Finite.shortest` — the decimal of fewest digits that rounds back, the nearest one of those
- `RealStyle` — where a printed number is written with an exponent
- `RealStyle.print` — a finite number written out

## Design notes

The reals that round to a number form an interval, which holds its ends when the last bit is even.
For each count of digits only the two neighbours of the number on that decimal grid can lie in the
interval nearest to it, so these are tested, with integers only, until a count has a hit.
-/

namespace Scoreboard

namespace BinaryFormat

/-- The reals that round to a magnitude, as integers over `4 * 2 ^ scale`, and whether the two ends
    belong to them. Below a power of two the grid is finer. -/
def roundingInterval (format : BinaryFormat) (units : Nat) : Nat × Nat × Bool :=
  let dropped := format.excess units
  let step := Nat.pow 2 dropped
  let below := if 0 < dropped && units = Nat.pow 2 units.log2 then step else 2 * step
  (4 * units - below, 4 * units + 2 * step, (units / step) % 2 = 0)

/-- `digits * 10 ^ exponent` rounds to the magnitude. -/
def roundsTo (format : BinaryFormat) (units digits : Nat) (exponent : Int) : Bool :=
  let (low, high, closed) := format.roundingInterval units
  let up := Nat.pow 10 exponent.toNat
  let down := Nat.pow 10 (-exponent).toNat
  let value := digits * up * 4 * Nat.pow 2 format.scale
  if closed then low * down ≤ value && value ≤ high * down
  else low * down < value && value < high * down

/-- The nearest decimal on the grid `10 ^ exponent`, if one of the number's two neighbours there
    rounds to it; an exact tie goes to the even one. -/
def nearestOnGrid (format : BinaryFormat) (units : Nat) (exponent : Int) : Option Nat :=
  let num := units * Nat.pow 10 (-exponent).toNat
  let den := Nat.pow 2 format.scale * Nat.pow 10 exponent.toNat
  let nearest := roundEven num den
  let other := if nearest = num / den then nearest + 1 else num / den
  if format.roundsTo units nearest exponent then some nearest
  else if format.roundsTo units other exponent then some other
  else none

/-- The power of ten of the leading digit of a magnitude that is not zero. -/
def leadingExponent (format : BinaryFormat) (units : Nat) : Int :=
  let shifted := units * Nat.pow 10 format.scale / Nat.pow 2 format.scale
  ((Nat.toDigits 10 shifted).length : Int) - 1 - format.scale

/-- The first count of digits, from `count` on, whose grid has a decimal that rounds back. -/
def searchShortest (format : BinaryFormat) (units : Nat) (count : Nat) : Nat → Nat × Int
  | 0 => (0, 0)
  | fuel + 1 =>
    let exponent := format.leadingExponent units + 1 - count
    match format.nearestOnGrid units exponent with
    | some digits => (digits, exponent)
    | none => searchShortest format units (count + 1) fuel

/-- Trailing zeros moved into the power of ten. -/
def dropZeros (digits : Nat) (exponent : Int) : Nat → Nat × Int
  | 0 => (digits, exponent)
  | fuel + 1 =>
    if digits % 10 = 0 then dropZeros (digits / 10) (exponent + 1) fuel else (digits, exponent)

end BinaryFormat

/-- The decimal of fewest digits that rounds back to the number, the nearest one of those. As many
    digits as the format has bits are always enough. -/
def Finite.shortest {format : BinaryFormat} (x : Finite format) : Decimal :=
  if x.units = 0 then ⟨x.negative, 0, 0⟩
  else
    let found := format.searchShortest x.units 1 format.precision
    let (digits, exponent) := BinaryFormat.dropZeros found.1 found.2 format.precision
    ⟨x.negative, digits, exponent⟩

/-- Where a printed number is written with an exponent: outside the places `lowest` to `highest` of
    the decimal point, counted from before the first digit. -/
structure RealStyle where
  /-- The lowest place of the point in positional writing, if there is one. -/
  lowest : Option Int
  /-- The highest place of the point in positional writing, if there is one. -/
  highest : Option Int

namespace RealStyle

/-- Every number in positional writing. -/
def positional : RealStyle := ⟨none, none⟩

/-- The place of the point is one of positional writing. -/
def allows (style : RealStyle) (point : Int) : Bool :=
  (style.lowest.all fun low => low ≤ point) && (style.highest.all fun high => point ≤ high)

/-- Digits with the point after `point` of them; there is always a digit on either side. -/
def placePoint (digits : List Char) (point : Int) : List Char :=
  if point ≤ 0 then
    ['0', '.'] ++ List.replicate (-point).toNat '0' ++ digits
  else if digits.length ≤ point.toNat then
    digits ++ List.replicate (point.toNat - digits.length) '0' ++ ['.', '0']
  else
    digits.take point.toNat ++ '.' :: digits.drop point.toNat

/-- Digits with the point after the first one, and the exponent that makes up for it. -/
def withExponent (digits : List Char) (point : Int) : List Char :=
  let mantissa := digits.take 1 ++ (if digits.length ≤ 1 then [] else '.' :: digits.drop 1)
  let exponent := point - 1
  mantissa ++ ['e', if exponent < 0 then '-' else '+'] ++ Nat.toDigits 10 exponent.natAbs

/-- A finite number written with the fewest digits that read back. -/
def print (style : RealStyle) {format : BinaryFormat} (x : Finite format) : String :=
  let d := x.shortest
  let sign := if d.negative then ['-'] else []
  if d.digits = 0 then
    String.ofList (sign ++ ['0', '.', '0'])
  else
    let digits := Nat.toDigits 10 d.digits
    let point : Int := digits.length + d.exponent
    String.ofList (sign ++
      (if style.allows point then placePoint digits point else withExponent digits point))

end RealStyle

end Scoreboard
