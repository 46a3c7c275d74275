import Scoreboard.Json.Reader

/-!
# Passing over JSON values

A value that nobody wants is passed over without being made: its brackets have to match, but it may
be nested to any depth, its numbers may be of any size, and half characters are let pass.

## Main definitions

- `Json.skipValue` — the text after a value

## Design notes

The open brackets are kept in a list, innermost first, so no recursion follows the nesting. Every
step either reads a character or is followed by one that does; hence the bound on the steps.
-/

namespace Scoreboard.Json

/-- A bracket that is open. -/
inductive Bracket where
  | array
  | object
  deriving DecidableEq

namespace Bracket

/-- The character that closes the bracket. -/
def close : Bracket → Char
  | array => ']'
  | object => '\x7d'

/-- The text ends within the bracket. -/
def endFault : Bracket → Fault
  | array => .endInArray
  | object => .endInObject

/-- A value within the bracket is followed by neither a comma nor the end. -/
def commaFault : Bracket → Fault
  | array => .noArrayComma
  | object => .noObjectComma

end Bracket

/-- What comes next while a value is passed over. -/
inductive SkipPhase where
  | value
  /-- The end of the innermost bracket, or its first item. -/
  | opened
  /-- The end of the innermost bracket, or a comma. -/
  | continued
  /-- An item of the innermost bracket. -/
  | item

/-- The text after the rest of a quoted text. -/
def skipText : Nat → List Char → Except Problem (List Char)
  | 0, cs => stop .endInText cs
  | _ + 1, [] => stop .endInText []
  | steps + 1, c :: rest =>
    if c = '"' then .ok rest
    else if c = '\\' then
      match rest with
      | [] => stop .endInText []
      | e :: rest =>
        if e = 'u' then do
          let (_, rest) ← readHex rest
          skipText steps rest
        else if ['"', '\\', '/', 'b', 'f', 'n', 'r', 't'].contains e then skipText steps rest
        else stopAhead .badEscape (e :: rest)
    else if c.toNat < 32 then stop .controlCharacter (c :: rest)
    else skipText steps rest

/-- The text after the exponent of a number, after its letter. -/
def skipExponent (cs : List Char) : Except Problem (List Char) :=
  let digits :=
    match cs with
    | '-' :: rest => rest
    | '+' :: rest => rest
    | cs => cs
  match digits with
  | [] => stop .badNumber []
  | c :: rest =>
    if c.isDigit then .ok (rest.dropWhile Char.isDigit) else stopAhead .badNumber (c :: rest)

/-- The text after a number, after the digits of its whole part. -/
def skipFraction : List Char → Except Problem (List Char)
  | [] => .ok []
  | c :: cs =>
    if c = '.' then
      if cs.head?.any Char.isDigit then
        match cs.dropWhile Char.isDigit with
        | [] => .ok []
        | d :: rest => if isExponentLetter d then skipExponent rest else .ok (d :: rest)
      else stopAhead .badNumber cs
    else if isExponentLetter c then skipExponent cs
    else .ok (c :: cs)

/-- The text after a number, after its sign. -/
def skipNumber : List Char → Except Problem (List Char)
  | [] => stop .badNumber []
  | c :: rest =>
    if c = '0' then
      if rest.head?.any Char.isDigit then stopAhead .badNumber rest else skipFraction rest
    else if c.isDigit then skipFraction (rest.dropWhile Char.isDigit)
    else stopAhead .badNumber (c :: rest)

/-- One step of passing over a value: what comes next, the open brackets and the rest of
    the text. -/
def skipStep (phase : SkipPhase) (brackets : List Bracket) (cs : List Char) :
    Except Problem (SkipPhase × List Bracket × List Char) :=
  match phase, brackets with
  | .value, _ =>
    match skipSpace cs with
    | [] => stopAhead .endInValue []
    | c :: rest =>
      match c with
      | '[' => .ok (.opened, .array :: brackets, rest)
      | '\x7b' => .ok (.opened, .object :: brackets, rest)
      | 'n' => do return (.continued, brackets, ← readWord ['u', 'l', 'l'] rest)
      | 't' => do return (.continued, brackets, ← readWord ['r', 'u', 'e'] rest)
      | 'f' => do return (.continued, brackets, ← readWord ['a', 'l', 's', 'e'] rest)
      | '-' => do return (.continued, brackets, ← skipNumber rest)
      | '"' => do return (.continued, brackets, ← skipText (rest.length + 1) rest)
      | _ =>
        if c.isDigit then do return (.continued, brackets, ← skipNumber (c :: rest))
        else stopAhead .noValue (c :: rest)
  | .opened, bracket :: outer =>
    match skipSpace cs with
    | [] => stopAhead bracket.endFault []
    | c :: rest =>
      if c = bracket.close then .ok (.continued, outer, rest)
      else .ok (.item, bracket :: outer, c :: rest)
  | .continued, bracket :: outer =>
    match skipSpace cs with
    | [] => stopAhead bracket.endFault []
    | c :: rest =>
      if c = ',' then .ok (.item, bracket :: outer, rest)
      else if c = bracket.close then .ok (.continued, outer, rest)
      else stopAhead bracket.commaFault (c :: rest)
  | .item, .object :: outer =>
    match skipSpace cs with
    | [] => stopAhead .endInObject []
    | c :: rest =>
      if c = '"' then do
        let rest ← skipText (rest.length + 1) rest
        return (.value, .object :: outer, ← readColon rest)
      else stopAhead .noName (c :: rest)
  | .item, brackets => .ok (.value, brackets, cs)
  | phase, [] => .ok (phase, [], cs)

/-- The text after a value of which a part was passed over. -/
def skipFrom : Nat → SkipPhase → List Bracket → List Char → Except Problem (List Char)
  | 0, _, _, cs => stop .endInValue cs
  | steps + 1, phase, brackets, cs =>
    match phase, brackets with
    | .continued, [] => .ok cs
    | phase, brackets => do
      let (phase, brackets, rest) ← skipStep phase brackets cs
      skipFrom steps phase brackets rest

/-- The text after a value. -/
def skipValue (cs : List Char) : Except Problem (List Char) :=
  skipFrom (3 * cs.length + 3) .value [] cs

end Scoreboard.Json
