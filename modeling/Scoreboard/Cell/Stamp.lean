import Scoreboard.Calendar
import Scoreboard.Text.Digit

/-!
# Tee-time stamps

A stamp is a month, a day and a time of day inside a cell's text, such as `3/4 10:30am`. It names no
year, so it is resolved against one.

## Main definitions

- `StampText` — the five parts of a stamp as they are written
- `StampText.first?` — the first stamp in a text
- `Stamp` — a moment
- `StampText.resolve?` — the moment that a written stamp names in a year
- `Stamp.read?` — the moment that the first stamp of a text names in a year

## Design notes

A run of digits is always taken whole: what follows a part is never a digit, so no shorter run can
lead to a match. Only the first written stamp of a text counts. If it names no moment, the text has
none, whatever follows.
-/

namespace Scoreboard

/-- The half of the day. -/
inductive Half where
  | am
  | pm
  deriving DecidableEq

/-- The parts of a written stamp `month/day hour:minute` with the half of the day. -/
structure StampText where
  /-- The digits before the slash. -/
  month : List Char
  /-- The digits after the slash. -/
  day : List Char
  /-- The digits before the colon. -/
  hour : List Char
  /-- The digits after the colon. -/
  minute : List Char
  /-- The half of the day. -/
  half : Half
  deriving DecidableEq

/-- A moment, to the minute. -/
structure Stamp where
  year : Int
  /-- The month, from 1. -/
  month : Nat
  /-- The day, from 1. -/
  day : Nat
  /-- The hour, from 0 to 23. -/
  hour : Nat
  minute : Nat
  deriving DecidableEq

namespace StampText

/-- A run of digits at the front that is not empty and is followed by `close`, and what
    comes after. -/
def digitsThen? (close : Char) (cs : List Char) : Option (List Char × List Char) :=
  match cs.takeWhile Text.isDecimalDigit, cs.dropWhile Text.isDecimalDigit with
  | [], _ => none
  | _, [] => none
  | d :: ds, c :: rest => if c = close then some (d :: ds, rest) else none

/-- A run of digits at the front that is not empty, and what comes after. -/
def digits? (cs : List Char) : Option (List Char × List Char) :=
  match cs.takeWhile Text.isDecimalDigit with
  | [] => none
  | d :: ds => some (d :: ds, cs.dropWhile Text.isDecimalDigit)

/-- The half of the day at the front, in either case. -/
def half? : List Char → Option Half
  | a :: m :: _ =>
    if m = 'm' || m = 'M' then
      if a = 'a' || a = 'A' then some .am
      else if a = 'p' || a = 'P' then some .pm
      else none
    else none
  | _ => none

/-- The stamp at the front of a text. -/
def atFront? (cs : List Char) : Option StampText := do
  let (month, cs) ← digitsThen? '/' cs
  let (day, cs) ← digitsThen? ' ' cs
  let (hour, cs) ← digitsThen? ':' cs
  let (minute, cs) ← digits? cs
  let half ← half? cs
  return ⟨month, day, hour, minute, half⟩

/-- The first stamp in a text. -/
def first? : List Char → Option StampText
  | [] => none
  | c :: cs =>
    match atFront? (c :: cs) with
    | some stamp => some stamp
    | none => first? cs

/-- The number of a part: ASCII digits that fit 32 bits. -/
def part? (digits : List Char) : Option Nat :=
  (Text.natOfDigits? digits).filter fun n => n < UInt32.size

/-- The hour of the day of an hour on the dial. Hours beyond the dial stay as they are. -/
def hourOfDay (half : Half) (hour : Nat) : Nat :=
  match half with
  | .am => if hour = 12 then 0 else hour
  | .pm => if hour < 12 then hour + 12 else hour

/-- The moment that a written stamp names in a year, if there is one. -/
def resolve? (year : Int) (stamp : StampText) : Option Stamp := do
  let month ← part? stamp.month
  let day ← part? stamp.day
  let hour ← part? stamp.hour
  let minute ← part? stamp.minute
  let hour := hourOfDay stamp.half hour
  if Calendar.isDay year month day && hour < 24 && minute < 60 then
    some ⟨year, month, day, hour, minute⟩
  else
    none

end StampText

namespace Stamp

/-- The moment that the first stamp of a text names in a year. -/
def read? (year : Int) (cs : List Char) : Option Stamp :=
  (StampText.first? cs).bind (StampText.resolve? year)

/-- The order of time. -/
def order (s t : Stamp) : Ordering :=
  (compare s.year t.year).then <| (compare s.month t.month).then <|
    (compare s.day t.day).then <| (compare s.hour t.hour).then <| compare s.minute t.minute

/-- Exchanging two moments reverses their order. -/
theorem order_swap (s t : Stamp) : t.order s = (s.order t).swap := by
  simp only [order, Ordering.swap_then, ← Std.OrientedCmp.eq_swap]

end Stamp

end Scoreboard
