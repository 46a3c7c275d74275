/-!
# Decimal digits

The characters that count as decimal digits in a pattern, and the narrower class that has a value.

## Main definitions

- `Text.isDecimalDigit` — a decimal digit of any script
- `Text.digitValue?` — the value of an ASCII digit
- `Text.natOfDigits?` — the number that a run of ASCII digits spells

## Design notes

Every script keeps its ten digits in a row, so the table holds the place of each zero.
A run in another script looks like a number but has no value: callers refuse it.
-/

namespace Scoreboard.Text

/-- The code points of the zeros beyond ASCII: ten digits follow in order from each. -/
def digitZeros : List Nat :=
  [0x660, 0x6f0, 0x7c0, 0x966, 0x9e6, 0xa66, 0xae6, 0xb66, 0xbe6, 0xc66, 0xce6, 0xd66, 0xde6,
   0xe50, 0xed0, 0xf20, 0x1040, 0x1090, 0x17e0, 0x1810, 0x1946, 0x19d0, 0x1a80, 0x1a90, 0x1b50,
   0x1bb0, 0x1c40, 0x1c50, 0xa620, 0xa8d0, 0xa900, 0xa9d0, 0xa9f0, 0xaa50, 0xabf0, 0xff10,
   0x104a0, 0x10d30, 0x10d40, 0x11066, 0x110f0, 0x11136, 0x111d0, 0x112f0, 0x11450, 0x114d0,
   0x11650, 0x116c0, 0x116d0, 0x116da, 0x11730, 0x118e0, 0x11950, 0x11bf0, 0x11c50, 0x11d50,
   0x11da0, 0x11f50, 0x16130, 0x16a60, 0x16ac0, 0x16b50, 0x16d70, 0x1ccf0, 0x1d7ce, 0x1d7d8,
   0x1d7e2, 0x1d7ec, 0x1d7f6, 0x1e140, 0x1e2f0, 0x1e4f0, 0x1e5f1, 0x1e950, 0x1fbf0]

/-- A decimal digit of any script. -/
def isDecimalDigit (c : Char) : Bool :=
  c.isDigit ||
    (127 < c.toNat && digitZeros.any fun start => start ≤ c.toNat && c.toNat < start + 10)

/-- The value of an ASCII digit; the digits of other scripts have none. -/
def digitValue? (c : Char) : Option Nat :=
  if c.isDigit then some (c.toNat - '0'.toNat) else none

/-- The number spelled by ASCII digits after a number that was read already. -/
def natOfDigitsFrom? (n : Nat) : List Char → Option Nat
  | [] => some n
  | c :: cs => (digitValue? c).bind fun d => natOfDigitsFrom? (10 * n + d) cs

/-- The number spelled by ASCII digits, most significant first. The empty run spells zero. -/
def natOfDigits? (cs : List Char) : Option Nat :=
  natOfDigitsFrom? 0 cs

end Scoreboard.Text
