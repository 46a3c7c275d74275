/-!
# Faults in JSON texts

## Main definitions

- `Json.Fault` — what is wrong with a text
- `Json.Problem` — a fault and where it was found
- `Json.Problem.describe` — the wording of a problem in a text
-/

namespace Scoreboard.Json

/-- What is wrong with a JSON text. -/
inductive Fault where
  /-- The text ends within a list. -/
  | endInArray
  /-- The text ends within an object. -/
  | endInObject
  /-- The text ends within quotes. -/
  | endInText
  /-- The text ends where a value is due. -/
  | endInValue
  /-- A name is not followed by a colon. -/
  | noColon
  /-- A list item is followed by neither a comma nor the end. -/
  | noArrayComma
  /-- A member is followed by neither a comma nor the end. -/
  | noObjectComma
  /-- A word that is none. -/
  | badWord
  /-- No value begins here. -/
  | noValue
  | badEscape
  | badNumber
  /-- A number beyond the largest double. -/
  | hugeNumber
  /-- A control character within quotes. -/
  | controlCharacter
  /-- A member without a name. -/
  | noName
  /-- Half of a character. -/
  | loneSurrogate
  /-- Half of a character that is followed by no escape. -/
  | unfinishedEscape
  /-- A comma before the end of a list or object. -/
  | trailingComma
  /-- Something after the end. -/
  | trailingCharacters
  /-- Too many values within values. -/
  | tooDeep
  deriving DecidableEq

namespace Fault

/-- The text is too short; all other faults are in what is there. -/
def isEnd : Fault → Bool
  | endInArray | endInObject | endInText | endInValue => true
  | _ => false

/-- The wording of a fault. -/
def message : Fault → String
  | endInArray => "EOF while parsing a list"
  | endInObject => "EOF while parsing an object"
  | endInText => "EOF while parsing a string"
  | endInValue => "EOF while parsing a value"
  | noColon => "expected `:`"
  | noArrayComma => "expected `,` or `]`"
  | noObjectComma => "expected `,` or `\x7d`"
  | badWord => "expected ident"
  | noValue => "expected value"
  | badEscape => "invalid escape"
  | badNumber => "invalid number"
  | hugeNumber => "number out of range"
  | controlCharacter => "control character (\\u0000-\\u001F) found while parsing a string"
  | noName => "key must be a string"
  | loneSurrogate => "lone leading surrogate in hex escape"
  | unfinishedEscape => "unexpected end of hex escape"
  | trailingComma => "trailing comma"
  | trailingCharacters => "trailing characters"
  | tooDeep => "recursion limit exceeded"

end Fault

/-- A fault and where it was found. -/
structure Problem where
  fault : Fault
  /-- What was not read yet. -/
  unread : List Char
  /-- How many bytes of that the fault reaches into; none, if it lies in what was read last. -/
  ahead : Nat

/-- The length of characters in bytes. -/
def utf8Length (cs : List Char) : Nat :=
  cs.foldl (fun length c => length + c.utf8Size) 0

/-- The place, counted in bytes, that lies `ahead` bytes after what was read when only `unread` was
    left, but not after the end of the text. -/
def column (text : String) (unread : List Char) (ahead : Nat) : Nat :=
  min text.utf8ByteSize (text.utf8ByteSize - utf8Length unread + ahead)

/-- The place of a message in a text of one line. -/
def located (text : String) (unread : List Char) (ahead : Nat) (message : String) : String :=
  message ++ " at line 1 column " ++ (column text unread ahead).repr

/-- The wording of a problem in a text of one line. -/
def Problem.describe (problem : Problem) (text : String) : String :=
  located text problem.unread problem.ahead problem.fault.message

end Scoreboard.Json
