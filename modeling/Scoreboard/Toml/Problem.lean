import Scoreboard.Toml.Excerpt

/-!
# Faults in TOML documents

## Main definitions

- `Toml.Part`, `Toml.Due`, `Toml.Refusal` — the parts of a message
- `Toml.Problem` — what is wrong with a document, and where
- `Toml.Parsed` — what was read from the front of a text, and the rest of the text
- `Toml.settle`, `Toml.within`, `Toml.expecting`, `Toml.orElse` — how problems are passed on

## Design notes

Some texts can be one thing or another, such as a date or a number. A problem is settled as soon as
the text can no longer be anything else; until then another reading is tried. The innermost part
that is at fault gives a problem its name.
-/

namespace Scoreboard.Toml

/-- The parts of a document that messages name. -/
inductive Part where
  | key
  /-- The header of a table. -/
  | header
  | array
  /-- A table between braces. -/
  | inlineTable
  /-- A value that begins like none: a text without quotes, most likely. -/
  | text
  /-- A text with escapes on one line. -/
  | basicText
  /-- A text with escapes over several lines. -/
  | longBasicText
  /-- A text without escapes on one line. -/
  | literalText
  /-- A text without escapes over several lines. -/
  | longLiteralText
  | escape
  /-- A character by four digits. -/
  | shortCode
  /-- A character by eight digits. -/
  | longCode
  | integer
  /-- A whole number in base 16. -/
  | hexadecimal
  /-- A whole number in base 8. -/
  | octal
  /-- A whole number in base 2. -/
  | binary
  /-- A number with a fraction or an exponent. -/
  | real
  | date
  /-- A time without a date. -/
  | time
  /-- A distance from universal time. -/
  | offset
  deriving DecidableEq

/-- What messages call a part. -/
def Part.name : Part → String
  | key => "key"
  | header => "table header"
  | array => "array"
  | inlineTable => "inline table"
  | text => "string"
  | basicText => "basic string"
  | longBasicText => "multiline basic string"
  | literalText => "literal string"
  | longLiteralText => "multiline literal string"
  | escape => "escape sequence"
  | shortCode => "unicode 4-digit hex code"
  | longCode => "unicode 8-digit hex code"
  | integer => "integer"
  | hexadecimal => "hexadecimal integer"
  | octal => "octal integer"
  | binary => "binary integer"
  | real => "floating-point number"
  | date => "date-time"
  | time => "time"
  | offset => "time offset"

/-- What would have fitted. -/
inductive Due where
  | exactly (written : String)
  /-- The end of the line. -/
  | newline
  | digit
  /-- A digit in front. -/
  | leadingDigit
  deriving DecidableEq

/-- What messages call what would have fitted. -/
def Due.message : Due → String
  | exactly written => "`" ++ written ++ "`"
  | newline => "newline"
  | digit => "digit"
  | leadingDigit => "leading digit"

/-- Why something well-formed is refused. -/
inductive Refusal where
  /-- There is no such date, time or character. -/
  | outOfRange
  /-- The number is too large. -/
  | tooLarge
  /-- The number is too far below zero. -/
  | tooSmall
  /-- Too many values within values, or too many parts of a key. -/
  | tooDeep
  /-- The key is taken; the place is that of its table, if messages name it. -/
  | taken (key : String) (place : Option (List String))
  /-- There is a value of another kind on the way to a table. -/
  | noTable (path : List String) (kind : String)
  deriving DecidableEq

/-- The wording of a refusal. -/
def Refusal.message : Refusal → String
  | outOfRange => "value is out of range"
  | tooLarge => "number too large to fit in target type"
  | tooSmall => "number too small to fit in target type"
  | tooDeep => "recursion limit exceeded"
  | taken key none => "duplicate key `" ++ key ++ "`"
  | taken key (some []) => "duplicate key `" ++ key ++ "` in document root"
  | taken key (some path) =>
    "duplicate key `" ++ key ++ "` in table `" ++ ".".intercalate path ++ "`"
  | noTable path kind =>
    "dotted key `" ++ ".".intercalate path ++ "` attempted to extend non-table type ("
      ++ kind ++ ")"

/-- What is wrong with a document, and where. -/
structure Problem where
  /-- The text from there on. -/
  rest : List Char
  /-- The part that is at fault. -/
  part : Option Part := none
  /-- What would have fitted. -/
  due : List Due := []
  /-- Why it is refused although it is well-formed. -/
  refusal : Option Refusal := none
  /-- The text cannot be anything else. -/
  settled : Bool := false
  deriving DecidableEq

namespace Problem

/-- The character at fault; nothing at the end of the document. -/
def span (problem : Problem) : Span :=
  ⟨problem.rest.length, problem.rest.length - 1⟩

/-- The wording of a problem. -/
def message (problem : Problem) : String :=
  let part := problem.part.map fun part => "invalid " ++ part.name
  let due :=
    if problem.due.isEmpty then none
    else some ("expected " ++ ", ".intercalate (problem.due.map Due.message))
  let refusal := problem.refusal.map Refusal.message
  "\n".intercalate (part.toList ++ due.toList ++ refusal.toList)

end Problem

/-- What was read from the front of a text, and the rest of the text. -/
abbrev Parsed (α : Type) := α × List Char

variable {α : Type}

/-- Nothing of the kind begins here. -/
def absent (rest : List Char) : Except Problem α :=
  .error { rest := rest }

/-- The text can only be what is read here. -/
def settle (result : Except Problem α) : Except Problem α :=
  result.mapError fun problem => { problem with settled := true }

/-- What is read here is such a part. -/
def within (part : Part) (result : Except Problem α) : Except Problem α :=
  result.mapError fun problem => { problem with part := problem.part <|> some part }

/-- What is read here would have fitted. -/
def expecting (due : List Due) (result : Except Problem α) : Except Problem α :=
  result.mapError fun problem => { problem with due := problem.due ++ due }

/-- Another reading, unless the first one succeeds or is the only one. -/
def orElse (result : Except Problem α) (other : Unit → Except Problem α) : Except Problem α :=
  match result with
  | .ok a => .ok a
  | .error problem => if problem.settled then .error problem else other ()

end Scoreboard.Toml
