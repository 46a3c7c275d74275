import Scoreboard.Calendar
import Scoreboard.Text.Digit
import Scoreboard.Toml.Problem

/-!
# Dates and times in TOML

Only whether a date is well-formed matters to a reader of settings, so a date is kept as written.

## Main definitions

- `Toml.readDate` — a date, a time or both at the front of a text

## Design notes

Four digits and a dash begin a date; two digits up to 23 and a colon begin a time. Nothing else
begins so, and from there on a problem is settled.
-/

namespace Scoreboard.Toml

/-- The number of exactly so many digits. -/
def readDigits (count : Nat) (cs : List Char) : Except Problem (Parsed Nat) :=
  if (cs.take count).length = count && (cs.take count).all Char.isDigit then
    .ok ((Text.natOfDigits? (cs.take count)).getD 0, cs.drop count)
  else absent cs

/-- The text after a character that is due. -/
def skipChar (due : Char) : List Char → Except Problem (List Char)
  | [] => absent []
  | c :: rest => if c = due then .ok rest else absent (c :: rest)

/-- The number of two digits, which lies between two bounds. -/
def readPart (least most : Nat) (cs : List Char) : Except Problem (Parsed Nat) := do
  let (n, rest) ← readDigits 2 cs
  if least ≤ n && n ≤ most then return (n, rest)
  else .error { rest := cs, refusal := some .outOfRange }

/-- The text after the month and the day of a year, which have to exist. -/
def skipMonth (year : Nat) (cs : List Char) : Except Problem (List Char) := do
  let (month, cs) ← readPart 1 12 cs
  let cs ← skipChar '-' cs
  let (day, rest) ← readPart 1 31 cs
  if Calendar.isDay year month day then return rest
  else .error { rest := cs, refusal := some .outOfRange }

/-- The text after a day: year, month and day. -/
def skipDay (cs : List Char) : Except Problem (List Char) := do
  let (year, cs) ← readDigits 4 cs
  let cs ← skipChar '-' cs
  settle (skipMonth year cs)

/-- The text after the fraction of a second, if there is one. -/
def skipFraction : List Char → List Char
  | [] => []
  | c :: rest =>
    if c = '.' && rest.head?.any Char.isDigit then rest.dropWhile Char.isDigit else c :: rest

/-- The text after the minutes and seconds of a time. The last minute of a day may have a leap
    second. -/
def skipMinute (cs : List Char) : Except Problem (List Char) := do
  let (_, cs) ← readPart 0 59 cs
  let cs ← skipChar ':' cs
  let (_, cs) ← readPart 0 60 cs
  return skipFraction cs

/-- The text after a time of day. -/
def skipTime (cs : List Char) : Except Problem (List Char) := do
  let (_, cs) ← readPart 0 23 cs
  let cs ← skipChar ':' cs
  settle (skipMinute cs)

/-- The text after the hours and minutes of a distance from universal time. -/
def skipDistance (cs : List Char) : Except Problem (List Char) := do
  let (_, cs) ← readPart 0 23 cs
  let cs ← skipChar ':' cs
  let (_, cs) ← readPart 0 59 cs
  return cs

/-- The text after the distance from universal time, if there is one. -/
def skipOffset : List Char → Except Problem (List Char)
  | [] => .ok []
  | c :: rest =>
    if c = 'Z' || c = 'z' then .ok rest
    else if c = '+' || c = '-' then within .offset (settle (skipDistance rest))
    else .ok (c :: rest)

/-- The text after the time that follows a day, if one does. -/
def skipTimeOfDay : List Char → Except Problem (List Char)
  | [] => .ok []
  | c :: rest =>
    if c = 'T' || c = 't' || c = ' ' then
      match skipTime rest with
      | .ok rest => skipOffset rest
      | .error problem => if problem.settled then .error problem else .ok (c :: rest)
    else .ok (c :: rest)

/-- The text after a date, a time or both. -/
def skipDate (cs : List Char) : Except Problem (List Char) :=
  orElse (within .date (do skipTimeOfDay (← skipDay cs))) fun _ => within .time (skipTime cs)

/-- A date, a time or both, as written. -/
def readDate (cs : List Char) : Except Problem (Parsed String) := do
  let rest ← skipDate cs
  return (String.ofList (cs.take (cs.length - rest.length)), rest)

end Scoreboard.Toml
