/-!
# White space at the ends of a text

## Main definitions

- `Text.isBlank` — white space of any script
- `Text.trim` — a text without the white space at either end
- `Text.isBlankLine` — nothing but white space

## Design notes

Zero-width characters and the byte order mark are not white space.
-/

namespace Scoreboard.Text

/-- White space: the ASCII controls from tab to carriage return, the space, and the separators
    beyond ASCII. -/
def isBlank (c : Char) : Bool :=
  let n := c.toNat
  (9 ≤ n && n ≤ 13) || n = 0x20 || n = 0x85 || n = 0xa0 || n = 0x1680
    || (0x2000 ≤ n && n ≤ 0x200a) || n = 0x2028 || n = 0x2029 || n = 0x202f || n = 0x205f
    || n = 0x3000

/-- The characters without the white space at the front. -/
def trimStartChars (cs : List Char) : List Char :=
  cs.dropWhile isBlank

/-- The characters without the white space at the back. -/
def trimEndChars (cs : List Char) : List Char :=
  (cs.reverse.dropWhile isBlank).reverse

/-- The characters without the white space at either end. -/
def trimChars (cs : List Char) : List Char :=
  trimEndChars (trimStartChars cs)

/-- A text without the white space at either end. -/
def trim (s : String) : String :=
  String.ofList (trimChars s.toList)

/-- A text without the white space at its end. -/
def trimEnd (s : String) : String :=
  String.ofList (trimEndChars s.toList)

/-- The text holds nothing but white space. -/
def isBlankLine (s : String) : Bool :=
  s.toList.all isBlank

end Scoreboard.Text
