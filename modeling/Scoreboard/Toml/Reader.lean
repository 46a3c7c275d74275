import Scoreboard.Toml.Date
import Scoreboard.Toml.Draft
import Scoreboard.Toml.Number

/-!
# Reading TOML values

## Main definitions

- `Toml.readScalar` — a value that is neither a list nor a table
- `Toml.readItems` — the rest of a list
- `Toml.readInline` — the rest of a table between braces
- `Toml.readValue` — a value

## Design notes

A list ends where no further item begins; whether it is closed there is seen afterwards. The same
goes for a table between braces, where a comma has to be followed by a member.
-/

namespace Scoreboard.Toml

/-! ### Values that hold no others -/

/-- A word that stands for a value. -/
def readWord {α : Type} (word : List Char) (value : α) (cs : List Char) :
    Except Problem (Parsed α) :=
  expecting [.exactly "\"", .exactly "'"] <| within .text <|
    if word.isPrefixOf cs then .ok (value, cs.drop word.length) else absent cs

/-- A value that begins with a digit or a sign: a date, a real number or a whole one. -/
def readNumeric (cs : List Char) : Except Problem (Parsed (Span → Toml)) :=
  orElse ((readDate cs).map fun found => (fun span => .date span found.1, found.2)) fun _ =>
    orElse ((readReal cs).map fun found => (fun span => .real span found.1, found.2)) fun _ =>
      (readWhole cs).map fun found => (fun span => .integer span found.1, found.2)

/-- A value that is neither a list nor a table, but for its place. A number may not begin with an
    underscore or a point, and a text needs quotes. -/
def readUnplaced : List Char → Except Problem (Parsed (Span → Toml))
  | [] => absent []
  | c :: rest =>
    let cs := c :: rest
    if c = '"' || c = literalQuote then
      (readQuoted cs).map fun found => (fun span => .text span found.1, found.2)
    else if c = '+' || c = '-' || c.isDigit then readNumeric cs
    else if c = '_' then
      expecting [.leadingDigit] <|
        (readWhole cs).map fun found => (fun span => .integer span found.1, found.2)
    else if c = '.' then
      expecting [.leadingDigit] <|
        (readReal cs).map fun found => (fun span => .real span found.1, found.2)
    else if c = 't' then
      settle (readWord ['t', 'r', 'u', 'e'] (fun span => .bool span true) cs)
    else if c = 'f' then
      settle (readWord ['f', 'a', 'l', 's', 'e'] (fun span => .bool span false) cs)
    else if c = 'n' then readWord ['n', 'a', 'n'] (fun span => .real span .nan) cs
    else readWord ['i', 'n', 'f'] (fun span => .real span (.infinite false)) cs

/-- A value that is neither a list nor a table. -/
def readScalar (cs : List Char) : Except Problem (Parsed Toml) := do
  let (value, rest) ← readUnplaced cs
  return (value (.between cs rest), rest)

/-! ### Lists -/

/-- The text after a comment, if there is one, up to the end of its line. -/
def skipComment : List Char → List Char
  | '#' :: rest => rest.dropWhile isTextChar
  | cs => cs

/-- The text after a line break that is due. -/
def skipNewline (cs : List Char) : Except Problem (List Char) :=
  match cs, newline? cs with
  | _, some rest => .ok rest
  | '\r' :: rest, none => absent rest
  | cs, none => absent cs

/-- The text after blanks, comments and line breaks. A line break has to follow a comment. -/
def skipFiller : Nat → List Char → Except Problem (List Char)
  | 0, cs => .ok cs
  | steps + 1, cs =>
    match skipSpace cs with
    | [] => .ok []
    | c :: rest =>
      if c = '#' || c = '\n' || c = '\r' then do
        skipFiller steps (← skipNewline (skipComment (c :: rest)))
      else .ok (c :: rest)

/-- The text after all blanks, comments and line breaks. -/
def skipAllFiller (cs : List Char) : Except Problem (List Char) :=
  skipFiller (cs.length + 1) cs

/-- An item of a list, with what may stand around it. -/
def readItem (value : List Char → Except Problem (Parsed Toml)) (cs : List Char) :
    Except Problem (Parsed Toml) := do
  let (item, rest) ← value (← skipAllFiller cs)
  return (item, ← skipAllFiller rest)

/-- The text after a list whose items were read. A comma may follow the last item. -/
def closeItems (isEmpty : Bool) (cs : List Char) : Except Problem (List Char) := do
  let cs :=
    match cs with
    | ',' :: rest => if isEmpty then cs else rest
    | cs => cs
  match ← settle (skipAllFiller cs) with
  | ']' :: rest => return rest
  | cs => settle (expecting [.exactly "]"] (within .array (absent cs)))

/-- The rest of a list, given the items before in reverse order and the text after them. -/
def readItems (value : List Char → Except Problem (Parsed Toml)) :
    Nat → List Toml → List Char → Except Problem (Parsed (List Toml))
  | 0, _, cs => absent cs
  | steps + 1, before, cs =>
    let next :=
      match before, cs with
      | [], cs => some cs
      | _, ',' :: rest => some rest
      | _, _ => none
    match next.map (readItem value) with
    | some (.ok (item, rest)) => readItems value steps (item :: before) rest
    | some (.error problem) =>
      if problem.settled then .error problem
      else do return (before.reverse, ← closeItems before.isEmpty cs)
    | none => do return (before.reverse, ← closeItems before.isEmpty cs)

/-! ### Tables between braces -/

/-- The text after the equals sign of a member, and after the blanks that follow. -/
def skipEquals (cs : List Char) : Except Problem (List Char) :=
  match cs with
  | '=' :: rest => .ok (skipSpace rest)
  | cs => settle (expecting [.exactly ".", .exactly "="] (absent cs))

/-- A member whose value is read by `value`. -/
def readMember (value : List Char → Except Problem (Parsed Toml)) (cs : List Char) :
    Except Problem (Parsed Member) := do
  let (key, rest) ← readKey cs
  let (value, rest) ← settle (value (← skipEquals rest))
  return (⟨key, value⟩, rest)

/-- The members of a table between braces, given those before in reverse order and the text after
    them. -/
def readMembers (value : List Char → Except Problem (Parsed Toml)) :
    Nat → List Member → List Char → Except Problem (Parsed (List Member))
  | 0, _, cs => absent cs
  | steps + 1, before, cs =>
    let next :=
      match before, cs with
      | [], cs => some cs
      | _, ',' :: rest => some rest
      | _, _ => none
    match next.map (readMember value) with
    | some (.ok (member, rest)) => readMembers value steps (member :: before) (skipSpace rest)
    | some (.error problem) =>
      if problem.settled then .error problem else .ok (before.reverse, skipSpace cs)
    | none => .ok (before.reverse, cs)

/-- The rest of a table between braces. That a key is taken is seen before the missing brace is. -/
def readInline (value : List Char → Except Problem (Parsed Toml)) (cs : List Char) :
    Except Problem (Parsed (List (String × Toml))) := do
  let (members, rest) ← readMembers value (cs.length + 1) [] cs
  match ofMembers members with
  | .error refusal => .error { rest := cs, refusal := some refusal, settled := true }
  | .ok entries =>
    match rest with
    | '\x7d' :: rest => return (entries, rest)
    | rest => settle (expecting [.exactly "\x7d"] (within .inlineTable (absent rest)))

/-! ### Values -/

/-- A value, which may hold lists and tables `depth` deep. -/
def readValue (depth : Nat) (cs : List Char) : Except Problem (Parsed Toml) :=
  match cs with
  | '[' :: inner =>
    match depth with
    | 0 => .error { rest := cs, refusal := some .tooDeep, settled := true }
    | depth + 1 => do
      let (items, rest) ← readItems (readValue depth) (inner.length + 2) [] inner
      return (.array (.between cs rest) items, rest)
  | '\x7b' :: inner =>
    match depth with
    | 0 => .error { rest := cs, refusal := some .tooDeep, settled := true }
    | depth + 1 => do
      let (members, rest) ← readInline (readValue depth) inner
      return (.table (.between cs rest) .inline members, rest)
  | cs => readScalar cs

end Scoreboard.Toml
