import Scoreboard.Json.Basic
import Scoreboard.Json.Problem
import Scoreboard.Number.Scaled
import Scoreboard.Text.Digit

/-!
# Reading JSON

The reader works from the front of a text and stops at the first fault.

## Main definitions

- `Json.Parsed` — what was read from the front of a text, and the rest of the text
- `Json.readText` — the rest of a quoted text
- `Json.readNumber` — a number
- `Json.readValue` — a value with at most so many values within values
- `Json.read` — the value of a whole text

## Design notes

The depth of nesting is bounded, so a value is read by recursion on what is left of that bound. The
items of one list, and the members of one object, are counted against the length of the text.
-/

namespace Scoreboard.Json

/-- What was read from the front of a text, and the rest of the text. -/
abbrev Parsed (α : Type) := α × List Char

/-- A fault in what was read last. -/
def stop {α : Type} (fault : Fault) (unread : List Char) : Except Problem α :=
  .error ⟨fault, unread, 0⟩

/-- A fault in the first byte of what comes next. -/
def stopAhead {α : Type} (fault : Fault) (unread : List Char) : Except Problem α :=
  .error ⟨fault, unread, 1⟩

/-- A blank between the parts of a text. -/
def isSpace (c : Char) : Bool :=
  c = ' ' || c = '\n' || c = '\t' || c = '\r'

/-- The text without the blanks at its front. -/
def skipSpace (cs : List Char) : List Char :=
  cs.dropWhile isSpace

/-- The text after a word that is due. -/
def readWord : List Char → List Char → Except Problem (List Char)
  | [], cs => .ok cs
  | _ :: _, [] => stop .endInValue []
  | c :: word, d :: cs => if c = d then readWord word cs else stopAhead .badWord (d :: cs)

/-- The value of a hexadecimal digit. -/
def hexValue? (c : Char) : Option Nat :=
  if '0' ≤ c && c ≤ '9' then some (c.toNat - '0'.toNat)
  else if 'a' ≤ c && c ≤ 'f' then some (c.toNat - 'a'.toNat + 10)
  else if 'A' ≤ c && c ≤ 'F' then some (c.toNat - 'A'.toNat + 10)
  else none

/-- The number of four hexadecimal digits. They are missing only if fewer than four bytes
    are left; if any four bytes are no such digits, the fault reaches up to their end. -/
def readHex (cs : List Char) : Except Problem (Parsed Nat) :=
  if utf8Length (cs.take 4) < 4 then stop .endInText []
  else
    match cs with
    | a :: b :: c :: d :: rest =>
      match hexValue? a, hexValue? b, hexValue? c, hexValue? d with
      | some a, some b, some c, some d => .ok (((a * 16 + b) * 16 + c) * 16 + d, rest)
      | _, _, _, _ => .error ⟨.badEscape, cs, 4⟩
    | _ => .error ⟨.badEscape, cs, 4⟩

/-- The number is the first half of a character beyond the basic plane. -/
def isHighHalf (n : Nat) : Bool := 0xd800 ≤ n && n ≤ 0xdbff

/-- The number is the second half of a character beyond the basic plane. -/
def isLowHalf (n : Nat) : Bool := 0xdc00 ≤ n && n ≤ 0xdfff

/-- The character whose first half was read; the second half is due. -/
def readLowHalf (high : Nat) : List Char → Except Problem (Parsed Char)
  | [] => stop .endInText []
  | '\\' :: [] => stop .endInText []
  | '\\' :: 'u' :: rest => do
    let (low, rest) ← readHex rest
    if isLowHalf low then
      return (Char.ofNat ((high - 0xd800) * 0x400 + (low - 0xdc00) + 0x10000), rest)
    else
      stop .loneSurrogate rest
  | '\\' :: rest => stopAhead .unfinishedEscape rest
  | rest => stopAhead .unfinishedEscape rest

/-- The character of an escape after its backslash. -/
def readEscape : List Char → Except Problem (Parsed Char)
  | [] => stop .endInText []
  | c :: rest =>
    match c with
    | '"' => .ok ('"', rest)
    | '\\' => .ok ('\\', rest)
    | '/' => .ok ('/', rest)
    | 'b' => .ok (Char.ofNat 8, rest)
    | 'f' => .ok (Char.ofNat 12, rest)
    | 'n' => .ok ('\n', rest)
    | 'r' => .ok ('\r', rest)
    | 't' => .ok ('\t', rest)
    | 'u' => do
      let (n, rest) ← readHex rest
      if isLowHalf n then stop .loneSurrogate rest
      else if isHighHalf n then readLowHalf n rest
      else return (Char.ofNat n, rest)
    | _ => stopAhead .badEscape (c :: rest)

/-- The rest of a quoted text, given the characters read before in reverse order. The length of the
    text bounds the steps. -/
def readTextFrom : Nat → List Char → List Char → Except Problem (Parsed String)
  | 0, _, cs => stop .endInText cs
  | _ + 1, _, [] => stop .endInText []
  | steps + 1, before, c :: rest =>
    if c = '"' then .ok (String.ofList before.reverse, rest)
    else if c = '\\' then do
      let (c, rest) ← readEscape rest
      readTextFrom steps (c :: before) rest
    else if c.toNat < 32 then stop .controlCharacter rest
    else readTextFrom steps (c :: before) rest

/-- The rest of a quoted text, up to its closing quote. -/
def readText (cs : List Char) : Except Problem (Parsed String) :=
  readTextFrom (cs.length + 1) [] cs

/-- The real number of its written parts. -/
def realOf (negative : Bool) (whole fraction : List Char) (exponent : Int) (rest : List Char) :
    Except Problem (Parsed Json) :=
  match (Scaled.ofParts negative whole fraction exponent).toBinary binary64 with
  | .finite x => .ok (.real x, rest)
  | _ => stop .hugeNumber rest

/-- The magnitude of the least integer. -/
def leastMagnitude : Nat := 9223372036854775808

/-- The whole number of its digits, or the real number if it is beyond the integers. A negative zero
    is a real. -/
def wholeOf (negative : Bool) (digits rest : List Char) : Except Problem (Parsed Json) :=
  let n := (Text.natOfDigits? digits).getD 0
  if negative then
    if 0 < n && n ≤ leastMagnitude then .ok (.integer (-(n : Int)), rest)
    else realOf negative digits [] 0 rest
  else if n < UInt64.size then .ok (.integer n, rest)
  else realOf negative digits [] 0 rest

/-- The greatest exponent that is read to its end. -/
def exponentLimit : Nat := 2147483647

/-- The text after the digit with which an exponent passes the limit, given the number of the digits
    before. -/
def passLimit? (n : Nat) : List Char → Option (List Char)
  | [] => none
  | c :: cs =>
    (Text.digitValue? c).bind fun d =>
      if 10 * n + d ≤ exponentLimit then passLimit? (10 * n + d) cs else some cs

/-- A number from the exponent on, after its letter. A number other than zero is known to be too
    large as soon as its exponent is. -/
def readExponent (negative : Bool) (whole fraction cs : List Char) : Except Problem (Parsed Json) :=
  let (below, cs) :=
    match cs with
    | '-' :: rest => (true, rest)
    | '+' :: rest => (false, rest)
    | cs => (false, cs)
  match cs with
  | [] => stop .endInValue []
  | c :: rest =>
    if c.isDigit then
      let n := (Text.natOfDigits? (cs.takeWhile Char.isDigit)).getD 0
      let isZero := (whole ++ fraction).all (· = '0')
      match if below || isZero then none else passLimit? 0 cs with
      | some rest => stop .hugeNumber rest
      | none =>
        realOf negative whole fraction (if below then -(n : Int) else n) (cs.dropWhile Char.isDigit)
    else
      stopAhead .badNumber (c :: rest)

/-- The letter that begins an exponent. -/
def isExponentLetter (c : Char) : Bool := c = 'e' || c = 'E'

/-- A number after the digits of its whole part. -/
def readFraction (negative : Bool) (whole : List Char) : List Char → Except Problem (Parsed Json)
  | [] => wholeOf negative whole []
  | c :: cs =>
    if c = '.' then
      let fraction := cs.takeWhile Char.isDigit
      match fraction, cs.dropWhile Char.isDigit with
      | [], [] => stopAhead .endInValue []
      | [], rest => stopAhead .badNumber rest
      | _, [] => realOf negative whole fraction 0 []
      | _, d :: rest =>
        if isExponentLetter d then readExponent negative whole fraction rest
        else realOf negative whole fraction 0 (d :: rest)
    else if isExponentLetter c then readExponent negative whole [] cs
    else wholeOf negative whole (c :: cs)

/-- A number after its sign. No further digit follows a leading zero. -/
def readNumber (negative : Bool) : List Char → Except Problem (Parsed Json)
  | [] => stop .endInValue []
  | c :: rest =>
    if c = '0' then
      if (rest.head?.any Char.isDigit) then stopAhead .badNumber rest
      else readFraction negative [c] rest
    else if c.isDigit then
      readFraction negative (c :: rest.takeWhile Char.isDigit) (rest.dropWhile Char.isDigit)
    else
      stopAhead .badNumber (c :: rest)

/-- The text after a colon that is due. -/
def readColon (cs : List Char) : Except Problem (List Char) :=
  match skipSpace cs with
  | [] => stopAhead .endInObject []
  | c :: rest => if c = ':' then .ok rest else stopAhead .noColon (c :: rest)

/-- The place of the next item of a list: none at the end of the list. -/
def nextItem (first : Bool) (cs : List Char) : Except Problem (Parsed Bool) :=
  match skipSpace cs with
  | [] => stopAhead .endInArray []
  | c :: rest =>
    if c = ']' then .ok (false, rest)
    else if first then .ok (true, c :: rest)
    else if c = ',' then
      match skipSpace rest with
      | [] => stopAhead .endInValue []
      | d :: rest =>
        if d = ']' then stopAhead .trailingComma (d :: rest) else .ok (true, d :: rest)
    else stopAhead .noArrayComma (c :: rest)

/-- The name of the next member of an object, after which its colon is due: none at the end of the
    object. -/
def nextName (first : Bool) (cs : List Char) : Except Problem (Parsed (Option String)) :=
  let name (cs : List Char) : Except Problem (Parsed (Option String)) :=
    match cs with
    | [] => stopAhead .endInValue []
    | c :: rest =>
      if c = '"' then do
        let (name, rest) ← readText rest
        return (some name, rest)
      else stopAhead .noName (c :: rest)
  match skipSpace cs with
  | [] => stopAhead .endInObject []
  | c :: rest =>
    if c = '\x7d' then .ok (none, rest)
    else if first then name (c :: rest)
    else if c = ',' then
      match skipSpace rest with
      | [] => stopAhead .endInValue []
      | d :: rest =>
        if d = '\x7d' then stopAhead .trailingComma (d :: rest) else name (d :: rest)
    else stopAhead .noObjectComma (c :: rest)

/-- The rest of a list whose items are read by `item`, given the items read before in reverse
    order. -/
def readItems (item : List Char → Except Problem (Parsed Json)) :
    Nat → List Json → List Char → Except Problem (Parsed (List Json))
  | 0, _, cs => stop .endInArray cs
  | steps + 1, before, cs => do
    let (more, rest) ← nextItem before.isEmpty cs
    if more then
      let (value, rest) ← item rest
      readItems item steps (value :: before) rest
    else
      return (before.reverse, rest)

/-- The rest of an object whose values are read by `value`, given the members read before in reverse
    order. -/
def readMembers (value : List Char → Except Problem (Parsed Json)) :
    Nat → List (String × Json) → List Char → Except Problem (Parsed (List (String × Json)))
  | 0, _, cs => stop .endInObject cs
  | steps + 1, before, cs => do
    match ← nextName before.isEmpty cs with
    | (none, rest) => return (before.reverse, rest)
    | (some name, rest) =>
      let rest ← readColon rest
      let (v, rest) ← value rest
      readMembers value steps ((name, v) :: before) rest

/-- How many values may stand within one another in a whole text. -/
def depthLimit : Nat := 127

/-- A value, which may hold lists and objects `depth` deep. -/
def readValue (depth : Nat) (cs : List Char) : Except Problem (Parsed Json) :=
  match skipSpace cs with
  | [] => stopAhead .endInValue []
  | c :: rest =>
    match c with
    | 'n' => do return (.null, ← readWord ['u', 'l', 'l'] rest)
    | 't' => do return (.bool true, ← readWord ['r', 'u', 'e'] rest)
    | 'f' => do return (.bool false, ← readWord ['a', 'l', 's', 'e'] rest)
    | '-' => readNumber true rest
    | '"' => do
      let (s, rest) ← readText rest
      return (.text s, rest)
    | '[' =>
      match depth with
      | 0 => stopAhead .tooDeep (c :: rest)
      | depth + 1 => do
        let (items, rest) ← readItems (readValue depth) (rest.length + 1) [] rest
        return (.array items, rest)
    | '\x7b' =>
      match depth with
      | 0 => stopAhead .tooDeep (c :: rest)
      | depth + 1 => do
        let (members, rest) ← readMembers (readValue depth) (rest.length + 1) [] rest
        return (ofMembers members, rest)
    | _ => if c.isDigit then readNumber false (c :: rest) else stopAhead .noValue (c :: rest)

/-- Nothing but blanks is left. -/
def atEnd (cs : List Char) : Except Problem Unit :=
  match skipSpace cs with
  | [] => .ok ()
  | c :: rest => stopAhead .trailingCharacters (c :: rest)

/-- The value of a whole text. -/
def read (s : String) : Except Problem Json := do
  let (value, rest) ← readValue depthLimit s.toList
  atEnd rest
  return value

end Scoreboard.Json
