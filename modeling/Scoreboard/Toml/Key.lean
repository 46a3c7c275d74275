import Scoreboard.Toml.Quoted

/-!
# Keys in TOML

A key has one or more parts between dots. A part is bare or in quotes.

## Main definitions

- `Toml.Key` — a key
- `Toml.readKey` — a key at the front of a text
- `Toml.writtenKey` — the plainest way of writing a part of a key
-/

namespace Scoreboard.Toml

/-- A part of a key and where it stands. -/
structure KeyPart where
  name : String
  span : Span

/-- A key. -/
structure Key where
  /-- The parts but the last. -/
  path : List KeyPart
  name : String

namespace Key

/-- The parts but the last, without their places. -/
def place (key : Key) : List String :=
  key.path.map KeyPart.name

/-- The parts, without their places. -/
def names (key : Key) : List String :=
  key.place ++ [key.name]

end Key

/-- How many parts a key may have, and how deep values may be nested. -/
def depthLimit : Nat := 79

/-- A character of a bare part. -/
def isKeyChar (c : Char) : Bool :=
  ('A' ≤ c && c ≤ 'Z') || ('a' ≤ c && c ≤ 'z') || ('0' ≤ c && c ≤ '9') || c = '_' || c = '-'

/-! ### Reading -/

/-- One part of a key, bare or in quotes. -/
def readKeyName (cs : List Char) : Except Problem (Parsed String) :=
  match cs.takeWhile isKeyChar with
  | [] => readShort cs
  | bare => .ok (String.ofList bare, cs.dropWhile isKeyChar)

/-- One part of a key, with the blanks around it. -/
def readKeyPart (cs : List Char) : Except Problem (Parsed KeyPart) := do
  let start := skipSpace cs
  let (name, rest) ← readKeyName start
  return (⟨name, .between start rest⟩, skipSpace rest)

/-- The parts of a key after the first, given those before in reverse order. A dot that no part
    follows does not belong to the key. -/
def moreKeyParts : Nat → List KeyPart → List Char → Except Problem (Parsed (List KeyPart))
  | 0, _, cs => absent cs
  | _ + 1, before, [] => .ok (before, [])
  | steps + 1, before, c :: rest =>
    if c = '.' then
      match readKeyPart rest with
      | .ok (part, rest) => moreKeyParts steps (part :: before) rest
      | .error problem => if problem.settled then .error problem else .ok (before, c :: rest)
    else .ok (before, c :: rest)

/-- A key, with the blanks around it. -/
def readKey (cs : List Char) : Except Problem (Parsed Key) := do
  let (parts, rest) ← within .key do
    let (first, rest) ← readKeyPart cs
    moreKeyParts (rest.length + 1) [first] rest
  if depthLimit < parts.length then .error { rest := cs, refusal := some .tooDeep }
  else
    match parts with
    | last :: path => return (⟨path.reverse, last.name⟩, rest)
    | [] => absent cs

/-! ### Writing -/

/-- A character of a part between double quotes. -/
def escapedChar (c : Char) : List Char :=
  if c = '"' then ['\\', '"']
  else if c = '\\' then ['\\', '\\']
  else if c.toNat = 8 then ['\\', 'b']
  else if c = '\t' then ['\\', 't']
  else if c = '\n' then ['\\', 'n']
  else if c.toNat = 12 then ['\\', 'f']
  else if c = '\r' then ['\\', 'r']
  else if isTextChar c then [c]
  else ['\\', 'u', '0', '0', Nat.digitChar (c.toNat / 16), (Nat.digitChar (c.toNat % 16)).toUpper]

/-- The plainest way of writing a part of a key: bare, between double quotes without escapes,
    between single quotes, or else with escapes. -/
def writtenKey (name : String) : String :=
  let cs := name.toList
  if !cs.isEmpty && cs.all isKeyChar then name
  else if cs.all fun c => isTextChar c && c ≠ '"' && c ≠ '\\' then "\"" ++ name ++ "\""
  else if cs.all fun c => isTextChar c && c ≠ literalQuote then
    String.ofList (literalQuote :: (cs ++ [literalQuote]))
  else "\"" ++ String.ofList (cs.flatMap escapedChar) ++ "\""

end Scoreboard.Toml
