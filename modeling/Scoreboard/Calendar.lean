/-!
# Calendar

The Gregorian calendar, extended to all years.

## Main definitions

- `Calendar.isLeap` — a leap year
- `Calendar.daysIn` — the days of a month
- `Calendar.isDay` — a day that exists, in a year of the supported range
-/

namespace Scoreboard.Calendar

/-- Leap years: every fourth, except the centuries that four hundred does not divide. -/
def isLeap (year : Int) : Bool :=
  year % 4 = 0 && (year % 100 ≠ 0 || year % 400 = 0)

/-- The days of a month; there are none outside the twelve. -/
def daysIn (leap : Bool) : Nat → Nat
  | 1 => 31
  | 2 => if leap then 29 else 28
  | 3 => 31
  | 4 => 30
  | 5 => 31
  | 6 => 30
  | 7 => 31
  | 8 => 31
  | 9 => 30
  | 10 => 31
  | 11 => 30
  | 12 => 31
  | _ => 0

/-- The first year that a day may lie in. -/
def firstYear : Int := -262143

/-- The last year that a day may lie in. -/
def lastYear : Int := 262142

/-- The day exists. -/
def isDay (year : Int) (month day : Nat) : Bool :=
  firstYear ≤ year && year ≤ lastYear && 1 ≤ day && day ≤ daysIn (isLeap year) month

end Scoreboard.Calendar
