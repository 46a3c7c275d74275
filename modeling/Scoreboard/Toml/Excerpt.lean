import Scoreboard.Json.Problem

/-!
# Places in a document

A message about a document shows the line that it is about and marks a stretch of it.

## Main definitions

- `Toml.Span` — a stretch of a document
- `Toml.excerpt` — a message with the line that it is about

## Design notes

A reader works on what is left of a document, so a place is told by how much is left there.
-/

namespace Scoreboard.Toml

/-- A stretch of a document. -/
structure Span where
  /-- How many characters are left where it begins. -/
  before : Nat
  /-- How many characters are left where it ends. -/
  after : Nat
  deriving DecidableEq, Inhabited

/-- The stretch between two places, each told by what is left there. -/
def Span.between (start stop : List Char) : Span :=
  ⟨start.length, stop.length⟩

/-- The stretch from the beginning of one to the end of another. -/
def Span.through (first last : Span) : Span :=
  ⟨first.before, last.after⟩

/-- What stands on the last line of a text. -/
def lastLine (cs : List Char) : List Char :=
  (cs.reverse.takeWhile (· ≠ '\n')).reverse

/-- A place in a document. -/
structure Place where
  /-- What stands before it. -/
  earlier : List Char
  /-- What stands from there on. -/
  later : List Char
  /-- It lies one character after what stands there, at the end of the document. -/
  past : Bool

namespace Place

/-- The place at which so many characters are left. The end of a document counts to the line of the
    last character. -/
def ofLeft (document : List Char) (left : Nat) : Place :=
  let read := document.length - left
  if document.length ≤ read && 0 < document.length then
    ⟨document.dropLast, document.drop (document.length - 1), true⟩
  else
    ⟨document.take read, document.drop read, false⟩

/-- The number of the line, from zero. -/
def line (place : Place) : Nat :=
  place.earlier.count '\n'

/-- The line. -/
def lineText (place : Place) : List Char :=
  lastLine place.earlier ++ place.later.takeWhile (· ≠ '\n')

/-- The column, from zero. It counts the characters before the place; their bytes, if a character of
    several bytes stands there. -/
def column (place : Place) : Nat :=
  let ahead := lastLine place.earlier
  if place.past then ahead.length + 1
  else if (place.later.head?.map Char.utf8Size).getD 1 = 1 then ahead.length
  else Json.utf8Length ahead

end Place

/-- So many copies of a character. -/
def run (c : Char) (count : Nat) : String :=
  String.ofList (List.replicate count c)

/-- A message about a stretch of a document, after the line on which the stretch begins. What lies
    on that line is marked, at least one column of it. -/
def excerpt (document : String) (span : Span) (message : String) : String :=
  let cs := document.toList
  let place := Place.ofLeft cs span.before
  let number := (place.line + 1).repr
  let size := Json.utf8Length ((cs.drop (cs.length - span.before)).take (span.before - span.after))
  let room := Json.utf8Length place.lineText - place.column
  let margin := run ' ' (number.length + 1) ++ "|"
  "TOML parse error at line " ++ number ++ ", column " ++ (place.column + 1).repr ++ "\n"
    ++ margin ++ "\n"
    ++ number ++ " | " ++ String.ofList place.lineText ++ "\n"
    ++ margin ++ run ' ' (place.column + 1) ++ run '^' (max 1 (min size room)) ++ "\n"
    ++ message ++ "\n"

end Scoreboard.Toml
