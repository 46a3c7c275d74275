import Scoreboard.Json.Basic
import Scoreboard.Number.Shortest
import Scoreboard.Text.Quoted

/-!
# Printing JSON

Values are printed without blanks. Characters beyond ASCII stand for themselves.

## Main definitions

- `Json.print` — the text of a value
- `Json.realStyle` — how real numbers are printed
- `Json.printText` — a text between quotes
-/

namespace Scoreboard.Json

/-- Real numbers have the fewest digits that read back, a point always, and an exponent below
    `10 ^ -5` and from `10 ^ 16` on. -/
def realStyle : RealStyle := ⟨some (-4), some 16⟩

/-- The characters that stand for one character between quotes. -/
def escaped (c : Char) : List Char :=
  if c = '"' then ['\\', '"']
  else if c = '\\' then ['\\', '\\']
  else if c.toNat = 8 then ['\\', 'b']
  else if c.toNat = 9 then ['\\', 't']
  else if c.toNat = 10 then ['\\', 'n']
  else if c.toNat = 12 then ['\\', 'f']
  else if c.toNat = 13 then ['\\', 'r']
  else if c.toNat < 32 then
    ['\\', 'u', '0', '0'] ++ (if c.toNat < 16 then ['0'] else []) ++ Text.hexDigits c.toNat
  else [c]

/-- A text between quotes. -/
def printText (s : String) : String :=
  String.ofList ('"' :: (s.toList.flatMap escaped ++ ['"']))

mutual

/-- The text of a value. -/
def print : Json → String
  | .null => "null"
  | .bool true => "true"
  | .bool false => "false"
  | .integer n => if n < 0 then "-" ++ n.natAbs.repr else n.natAbs.repr
  | .real x => realStyle.print x
  | .text s => printText s
  | .array items => "[" ++ ",".intercalate (printItems items) ++ "]"
  | .object members => "\x7b" ++ ",".intercalate (printMembers members) ++ "\x7d"

/-- The texts of the items of a list. -/
def printItems : List Json → List String
  | [] => []
  | item :: items => print item :: printItems items

/-- The texts of the members of an object. -/
def printMembers : List (String × Json) → List String
  | [] => []
  | (name, value) :: members => (printText name ++ ":" ++ print value) :: printMembers members

end

end Scoreboard.Json
