import Scoreboard.Number.Decimal
import Scoreboard.Text.Digit

/-!
# Numerals at the front of a text

## Main definitions

- `Numeral` — a written number: sign, digits before and after the point, exponent
- `Numeral.atFront?` — the longest numeral at the front of a text
- `Numeral.decimal?` — the number that a numeral names
- `Numeral.score?` — the finite double at the front of a text

## Design notes

Digits of every script belong to a numeral, since they belong to the run that a reader sees; but a
numeral with a digit beyond ASCII names no number. Neither does one whose double would be infinite.
An exponent without digits is not part of the numeral.
-/

namespace Scoreboard

/-- A written number. -/
structure Numeral where
  /-- It is written with a minus sign. -/
  negative : Bool
  /-- The digits before the point. -/
  whole : List Char
  /-- The digits after the point. -/
  fraction : List Char
  /-- The exponent, if there is one: whether it is written with a minus sign, and its digits. -/
  exponent : Option (Bool × List Char)
  deriving DecidableEq

namespace Numeral

/-- A sign at the front, read as "is negative", and what comes after. -/
def sign : List Char → Bool × List Char
  | '-' :: cs => (true, cs)
  | '+' :: cs => (false, cs)
  | cs => (false, cs)

/-- The exponent at the front of a text: a letter e, a sign or none, and at least one digit. -/
def exponent? : List Char → Option (Bool × List Char)
  | [] => none
  | c :: cs =>
    if c = 'e' || c = 'E' then
      let (negative, cs) := sign cs
      match cs.takeWhile Text.isDecimalDigit with
      | [] => none
      | d :: ds => some (negative, d :: ds)
    else
      none

/-- The numeral at the front of a text without a sign. -/
def unsignedAtFront? (negative : Bool) (cs : List Char) : Option Numeral :=
  match cs.takeWhile Text.isDecimalDigit, cs.dropWhile Text.isDecimalDigit with
  | [], '.' :: cs =>
    match cs.takeWhile Text.isDecimalDigit with
    | [] => none
    | d :: ds => some ⟨negative, [], d :: ds, exponent? (cs.dropWhile Text.isDecimalDigit)⟩
  | [], _ => none
  | d :: ds, '.' :: cs =>
    some ⟨negative, d :: ds, cs.takeWhile Text.isDecimalDigit,
      exponent? (cs.dropWhile Text.isDecimalDigit)⟩
  | d :: ds, cs => some ⟨negative, d :: ds, [], exponent? cs⟩

/-- The longest numeral at the front of a text. -/
def atFront? (cs : List Char) : Option Numeral :=
  let (negative, cs) := sign cs
  unsignedAtFront? negative cs

/-- The value of an exponent; a missing one is zero. -/
def exponentValue? : Option (Bool × List Char) → Option Int
  | none => some 0
  | some (negative, digits) =>
    (Text.natOfDigits? digits).map fun n => if negative then -(n : Int) else n

/-- The number that a numeral names, if all its digits have a value. -/
def decimal? (numeral : Numeral) : Option Decimal := do
  let digits ← Text.natOfDigits? (numeral.whole ++ numeral.fraction)
  let exponent ← exponentValue? numeral.exponent
  return ⟨numeral.negative, digits, exponent - numeral.fraction.length⟩

/-- The finite double that the numeral at the front of a text names. -/
def score? (cs : List Char) : Option (Finite binary64) :=
  match (atFront? cs).bind decimal? |>.map (Decimal.toBinary binary64) with
  | some (.finite x) => some x
  | _ => none

end Numeral

end Scoreboard
