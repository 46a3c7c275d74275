import Scoreboard.Json.Reader
import Scoreboard.Toml.Problem

/-!
# Texts in TOML

Basic texts have escapes and literal texts have none; either may run over several lines between
triple quotes. A line break within such a text is a line feed, however it is written.

## Main definitions

- `Toml.readQuoted` — a quoted text that may run over several lines
- `Toml.readShort` — a quoted text on one line

## Design notes

A text without its closing quotes is at fault where the quotes are missing: at the first character
that cannot belong to it. Quotes within a text over several lines may belong to it only if more of
it follows.
-/

namespace Scoreboard.Toml

/-- A blank within a line. -/
def isSpace (c : Char) : Bool := c = ' ' || c = '\t'

/-- The text without the blanks at its front. -/
def skipSpace (cs : List Char) : List Char := cs.dropWhile isSpace

/-- The text after a line break. -/
def newline? : List Char → Option (List Char)
  | '\n' :: rest => some rest
  | '\r' :: '\n' :: rest => some rest
  | _ => none

/-- The quote of literal texts. -/
def literalQuote : Char := Char.ofNat 0x27

/-- A character that may stand in a text for itself. -/
def isTextChar (c : Char) : Bool := c = '\t' || (32 ≤ c.toNat && c.toNat ≠ 127)

/-- A hexadecimal digit. -/
def isHexDigit (c : Char) : Bool := (Json.hexValue? c).isSome

/-- The value of digits in a base. -/
def valueIn (base : Nat) (digits : List Char) : Nat :=
  digits.foldl (fun n c => n * base + (Json.hexValue? c).getD 0) 0

/-- The character of a number, unless it is half of one. -/
def scalar? (n : Nat) : Option Char :=
  if n < 0xd800 || (0xdfff < n && n < 0x110000) then some (Char.ofNat n) else none

/-- The character of a code of so many digits. -/
def readCode (part : Part) (count : Nat) (cs : List Char) : Except Problem (Parsed Char) :=
  let digits := cs.take count
  settle <| within part <|
    if digits.length = count && digits.all isHexDigit then
      match scalar? (valueIn 16 digits) with
      | some c => .ok (c, cs.drop count)
      | none => .error { rest := cs, refusal := some .outOfRange }
    else absent cs

/-- What may follow a backslash. -/
def escapes : List Due :=
  ["b", "f", "n", "r", "t", "u", "U", "\\", "\""].map .exactly

/-- The character of an escape after its backslash. -/
def readEscape : List Char → Except Problem (Parsed Char)
  | [] => absent []
  | c :: rest =>
    match c with
    | 'b' => .ok (Char.ofNat 8, rest)
    | 't' => .ok ('\t', rest)
    | 'n' => .ok ('\n', rest)
    | 'f' => .ok (Char.ofNat 12, rest)
    | 'r' => .ok ('\r', rest)
    | '"' => .ok ('"', rest)
    | '\\' => .ok ('\\', rest)
    | 'u' => readCode .shortCode 4 rest
    | 'U' => readCode .longCode 8 rest
    | _ =>
      settle <| expecting escapes <| within .escape <|
        absent (if c.utf8Size = 1 then rest else c :: rest)

/-- The text after the blanks and line breaks at its front. -/
def skipBreaks : Nat → List Char → List Char
  | 0, cs => cs
  | steps + 1, cs =>
    let cs := skipSpace cs
    match newline? cs with
    | some rest => skipBreaks steps rest
    | none => cs

/-- The text after a line break that was hidden by a backslash, and after the blanks that follow. -/
def hiddenBreak? (cs : List Char) : Option (List Char) :=
  (newline? (skipSpace cs)).map fun rest => skipBreaks (rest.length + 1) rest

/-- A text ends where it must not. -/
def unended {α : Type} (part : Part) (rest : List Char) : Except Problem α :=
  settle (within part (absent rest))

/-- The rest of a basic text on one line, given the characters before in reverse order. -/
def readBasic : Nat → List Char → List Char → Except Problem (Parsed String)
  | 0, _, cs => unended .basicText cs
  | _ + 1, _, [] => unended .basicText []
  | steps + 1, before, c :: rest =>
    if c = '"' then .ok (String.ofList before.reverse, rest)
    else if c = '\\' && !rest.isEmpty then do
      let (c, rest) ← readEscape rest
      readBasic steps (c :: before) rest
    else if isTextChar c && c ≠ '\\' then readBasic steps (c :: before) rest
    else unended .basicText (c :: rest)

/-- The rest of a literal text on one line. -/
def readLiteral (cs : List Char) : Except Problem (Parsed String) :=
  let isInner (c : Char) : Bool := isTextChar c && c ≠ literalQuote
  match cs.dropWhile isInner with
  | c :: rest =>
    if c = literalQuote then .ok (String.ofList (cs.takeWhile isInner), rest)
    else unended .literalText (c :: rest)
  | [] => unended .literalText []

/-- How a run of quotes within a text over several lines is read: three of them end the text, and up
    to two more before them belong to it. -/
def quoteRun (count : Nat) : Nat × Bool :=
  if count < 3 then (count, false) else (min (count - 3) 2, true)

/-- A text over several lines goes on here. A malformed escape is at fault as a whole. -/
def goesOn (quote : Char) : List Char → Except Problem Bool
  | [] => .ok false
  | c :: rest =>
    if c = '\\' && quote = '"' then
      if (hiddenBreak? rest).isSome then .ok true
      else if rest.isEmpty then .ok false
      else
        match readEscape rest with
        | .ok _ => .ok true
        | .error problem => .error { problem with rest := c :: rest }
    else .ok (isTextChar c || (newline? (c :: rest)).isSome)

/-- The rest of a text over several lines, given the characters before in reverse order. -/
def readLong (part : Part) (quote : Char) :
    Nat → List Char → List Char → Except Problem (Parsed String)
  | 0, _, cs => unended part cs
  | _ + 1, _, [] => unended part []
  | steps + 1, before, c :: rest =>
    if c = quote then do
      let count := ((c :: rest).takeWhile (· = quote)).length
      let (inner, closed) := quoteRun count
      let before := List.replicate inner quote ++ before
      if closed then return (String.ofList before.reverse, (c :: rest).drop (inner + 3))
      else if ← goesOn quote ((c :: rest).drop inner) then
        readLong part quote steps before ((c :: rest).drop inner)
      else unended part (c :: rest)
    else
      match newline? (c :: rest) with
      | some rest => readLong part quote steps ('\n' :: before) rest
      | none =>
        if c = '\\' && quote = '"' then
          match hiddenBreak? rest with
          | some rest => readLong part quote steps before rest
          | none =>
            if rest.isEmpty then unended part (c :: rest)
            else do
              let (c, rest) ← readEscape rest
              readLong part quote steps (c :: before) rest
        else if isTextChar c then readLong part quote steps (c :: before) rest
        else unended part (c :: rest)

/-- A quoted text on one line. -/
def readShort : List Char → Except Problem (Parsed String)
  | [] => absent []
  | c :: rest =>
    if c = '"' then readBasic (rest.length + 1) [] rest
    else if c = literalQuote then readLiteral rest
    else absent (c :: rest)

/-- The text after three quotes. -/
def tripleQuote? (quote : Char) : List Char → Option (List Char)
  | a :: b :: c :: rest => if a = quote && b = quote && c = quote then some rest else none
  | _ => none

/-- A quoted text, which may run over several lines. A line break right after the opening quotes
    does not belong to it. -/
def readQuoted (cs : List Char) : Except Problem (Parsed String) :=
  match tripleQuote? '"' cs, tripleQuote? literalQuote cs with
  | some rest, _ => long .longBasicText '"' rest
  | none, some rest => long .longLiteralText literalQuote rest
  | none, none => readShort cs
where
  /-- The text after the opening quotes. -/
  long (part : Part) (quote : Char) (rest : List Char) : Except Problem (Parsed String) :=
    readLong part quote (rest.length + 1) [] ((newline? rest).getD rest)

end Scoreboard.Toml
