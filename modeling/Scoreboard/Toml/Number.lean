import Scoreboard.Number.Decimal
import Scoreboard.Toml.Quoted

/-!
# Numbers in TOML

Digits may be separated by single underscores. Whole numbers have 64 bits and may also be written in
base 16, 8 or 2; other numbers are doubles. A number above all doubles is refused, while one below
all doubles is infinite.

## Main definitions

- `Toml.readReal` — a number with a fraction or an exponent
- `Toml.readWhole` — a whole number
-/

namespace Scoreboard.Toml

/-- Digits after one that was read; an underscore has to stand between two of them. The digits come
    in order. -/
def moreDigits (isDigit : Char → Bool) : Nat → List Char → Except Problem (Parsed (List Char))
  | 0, cs => absent cs
  | _ + 1, [] => .ok ([], [])
  | steps + 1, c :: rest =>
    if isDigit c then do
      let (digits, rest) ← moreDigits isDigit steps rest
      return (c :: digits, rest)
    else if c = '_' then
      if rest.head?.any isDigit then moreDigits isDigit steps rest
      else settle (expecting [.digit] (absent rest))
    else .ok ([], c :: rest)

/-- At least one digit. -/
def readDigitRun (isDigit : Char → Bool) : List Char → Except Problem (Parsed (List Char))
  | [] => absent []
  | c :: rest =>
    if isDigit c then moreDigits isDigit (rest.length + 2) (c :: rest) else absent (c :: rest)

/-- The sign of a number, if it has one, and the text after it. -/
def readSign : List Char → Bool × List Char
  | [] => (false, [])
  | c :: rest => if c = '-' then (true, rest) else (false, if c = '+' then rest else c :: rest)

/-- The sign and the digits of a number up to its point, without leading zeros. -/
def readSigned (cs : List Char) : Except Problem (Parsed (Bool × List Char)) :=
  within .integer do
    let (negative, cs) := readSign cs
    match cs with
    | '0' :: rest => return ((negative, ['0']), rest)
    | cs =>
      let (digits, rest) ← readDigitRun Char.isDigit cs
      return ((negative, digits), rest)

/-! ### Whole numbers -/

/-- Whole numbers have 64 bits: they lie from `-wholeLimit` up to, but not including, the limit. -/
def wholeLimit : Nat := 9223372036854775808

/-- A whole number of 64 bits that begins at a place. -/
def wholeOf (start : List Char) (negative : Bool) (n : Nat) (rest : List Char) :
    Except Problem (Parsed Int) :=
  if negative then
    if n ≤ wholeLimit then .ok (-(n : Int), rest)
    else .error { rest := start, refusal := some .tooSmall, settled := true }
  else
    if n < wholeLimit then .ok (n, rest)
    else .error { rest := start, refusal := some .tooLarge, settled := true }

/-- A digit of base 8. -/
def isOctalDigit (c : Char) : Bool := '0' ≤ c && c ≤ '7'

/-- A digit of base 2. -/
def isBinaryDigit (c : Char) : Bool := c = '0' || c = '1'

/-- A whole number in a base, after the letter of the base. -/
def readBase (start : List Char) (part : Part) (base : Nat) (isDigit : Char → Bool)
    (cs : List Char) : Except Problem (Parsed Int) := do
  let (digits, rest) ← within part (settle (readDigitRun isDigit cs))
  wholeOf start false (valueIn base digits) rest

/-- A whole number. -/
def readWhole (cs : List Char) : Except Problem (Parsed Int) :=
  match cs with
  | '0' :: 'x' :: rest => readBase cs .hexadecimal 16 isHexDigit rest
  | '0' :: 'o' :: rest => readBase cs .octal 8 isOctalDigit rest
  | '0' :: 'b' :: rest => readBase cs .binary 2 isBinaryDigit rest
  | cs => do
    let ((negative, digits), rest) ← readSigned cs
    wholeOf cs negative (valueIn 10 digits) rest

/-! ### Other numbers -/

/-- A letter that begins an exponent. -/
def isExponentLetter (c : Char) : Bool := c = 'e' || c = 'E'

/-- An exponent after its letter. -/
def readExponent (cs : List Char) : Except Problem (Parsed Int) :=
  settle do
    let (negative, cs) := readSign cs
    let (digits, rest) ← readDigitRun Char.isDigit cs
    let n := valueIn 10 digits
    return (if negative then -(n : Int) else n, rest)

/-- An exponent, if there is one. -/
def readExponentIfAny : List Char → Except Problem (Parsed Int)
  | [] => .ok (0, [])
  | c :: rest => if isExponentLetter c then readExponent rest else .ok (0, c :: rest)

/-- The digits after the point and the exponent of a number. There has to be at least one of the
    two. -/
def readFraction : List Char → Except Problem (Parsed (List Char × Int))
  | [] => absent []
  | c :: rest =>
    if isExponentLetter c then do
      let (exponent, rest) ← readExponent rest
      return (([], exponent), rest)
    else if c = '.' then do
      let (digits, rest) ← settle (expecting [.digit] (readDigitRun Char.isDigit rest))
      let (exponent, rest) ← readExponentIfAny rest
      return ((digits, exponent), rest)
    else absent (c :: rest)

/-- A number with a fraction or an exponent. -/
def readPointed (cs : List Char) : Except Problem (Parsed (Binary binary64)) := do
  let ((negative, whole), rest) ← readSigned cs
  let ((fraction, exponent), rest) ← readFraction rest
  let digits := (Text.natOfDigits? (whole ++ fraction)).getD 0
  match Decimal.toBinary binary64 ⟨negative, digits, exponent - fraction.length⟩ with
  | .infinite false => settle (absent cs)
  | x => return (x, rest)

/-- A number by its name, after its sign. -/
def readNamed (cs : List Char) : Except Problem (Parsed (Binary binary64)) :=
  let (negative, cs) := readSign cs
  match cs with
  | 'i' :: 'n' :: 'f' :: rest => .ok (.infinite negative, rest)
  | 'n' :: 'a' :: 'n' :: rest => .ok (.nan, rest)
  | cs => absent cs

/-- A number that is not written as a whole one. -/
def readReal (cs : List Char) : Except Problem (Parsed (Binary binary64)) :=
  within .real (orElse (readPointed cs) fun _ => readNamed cs)

end Scoreboard.Toml
