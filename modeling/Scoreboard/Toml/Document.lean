import Scoreboard.Toml.Reader

/-!
# TOML documents

A document is read line by line: members, headers, comments and empty lines. Each member and each
header is added as soon as its line is read, so the first problem in the order of the text decides.

## Main definitions

- `Toml.readEntry` — a member and the rest of its line
- `Toml.readHeader` — a header and the rest of its line
- `Toml.document` — the members of a document
-/

namespace Scoreboard.Toml

/-- The text after the end of a line, which is due. -/
def skipLineEnd : List Char → Except Problem (List Char)
  | [] => .ok []
  | c :: rest =>
    match newline? (c :: rest) with
    | some rest => .ok rest
    | none => absent (c :: rest)

/-- The text after the rest of a line that holds nothing but a comment. -/
def skipLineRest (cs : List Char) : Except Problem (List Char) :=
  settle (expecting [.newline, .exactly "#"] (skipLineEnd (skipComment (skipSpace cs))))

/-- The document with a change to it, which may be refused at a place. -/
def tryAt {α : Type} (place : List Char) : Except Refusal α → Except Problem α
  | .ok a => .ok a
  | .error refusal => .error { rest := place, refusal := some refusal, settled := true }

/-- The document with the member of a line. -/
def readEntry (draft : Draft) (cs : List Char) : Except Problem (Parsed Draft) := do
  let (member, rest) ← settle (readMember (readValue depthLimit) cs)
  let rest ← skipLineRest rest
  return (← tryAt cs (draft.add member), rest)

/-- The key between the brackets of a header, and the text after them. -/
def readHeaderKey (close : List Char) (cs : List Char) : Except Problem (Parsed Key) := do
  let (key, rest) ← settle (readKey cs)
  if close.isPrefixOf rest then return (key, rest.drop close.length)
  else settle (expecting [.exactly ".", .exactly (String.ofList close)] (absent rest))

/-- The document with the header of a line, which begins with a bracket. -/
def readHeader (draft : Draft) (cs : List Char) : Except Problem (Parsed Draft) :=
  within .header do
    let (header, rest) ←
      match cs with
      | '[' :: '[' :: inner => do
        let (key, rest) ← readHeaderKey [']', ']'] inner
        pure (Header.item key, rest)
      | '[' :: d :: inner => do
        let (key, rest) ← readHeaderKey [']'] (d :: inner)
        pure (Header.table key, rest)
      | cs => settle (absent cs)
    let after ← skipLineRest rest
    return (← tryAt cs (draft.enter header (.between cs rest)), after)

/-- The document with its further lines. -/
def readLines : Nat → Draft → List Char → Except Problem Draft
  | 0, _, cs => absent cs
  | steps + 1, draft, cs =>
    match skipSpace cs with
    | [] => .ok draft
    | c :: rest =>
      if c = '#' then do
        readLines steps draft (← skipLineEnd (skipComment (c :: rest)))
      else if c = '\n' || c = '\r' then do
        readLines steps draft (← skipLineEnd (c :: rest))
      else do
        let (draft, rest) ←
          if c = '[' then readHeader draft (c :: rest) else readEntry draft (c :: rest)
        readLines steps draft rest

/-- The members of a document. A byte order mark at its front is passed over. -/
def document (s : String) : Except Problem (List (String × Toml)) := do
  let cs :=
    match s.toList with
    | [] => []
    | c :: rest => if c.toNat = 0xfeff then rest else c :: rest
  return (← readLines (cs.length + 1) {} cs).close

end Scoreboard.Toml
