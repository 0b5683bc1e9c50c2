/-!
Moments of the calendar that continues the leap rule of the year 2000 in both directions.
-/

namespace Toolflow.Calendar

/-- Seconds from the start of year 1; the leap second extends the nanoseconds of the second before
it. -/
structure Moment where
  seconds : Int
  nanos : Nat
deriving DecidableEq

def Moment.compare (a b : Moment) : Ordering :=
  (Ord.compare a.seconds b.seconds).then (Ord.compare a.nanos b.nanos)

def isLeapYear (year : Int) : Bool :=
  year % 4 = 0 ∧ (year % 100 ≠ 0 ∨ year % 400 = 0)

def monthLengths (year : Int) : List Nat :=
  [31, if isLeapYear year then 29 else 28, 31, 30, 31, 30, 31, 31, 30, 31, 30, 31]

structure Date where
  year : Int
  month : Nat
  day : Nat
deriving DecidableEq

namespace Date

/-- Whether the month has such a day, in the range of years that are kept. -/
def isValid (d : Date) : Bool :=
  -262143 ≤ d.year ∧ d.year ≤ 262142 ∧ 1 ≤ d.month ∧ d.month ≤ 12 ∧
    1 ≤ d.day ∧ d.day ≤ (monthLengths d.year)[d.month - 1]?.getD 0

/-- Days from the first of January of year 1. -/
def dayNumber (d : Date) : Int :=
  let before := d.year - 1
  365 * before + before / 4 - before / 100 + before / 400 +
    ((monthLengths d.year).take (d.month - 1)).foldl Nat.add 0 + d.day - 1

end Date

/-- A time of day; second 60 is a leap second. -/
structure Clock where
  hour : Nat
  minute : Nat
  second : Nat
  nanos : Nat
deriving DecidableEq

def Clock.midnight : Clock := ⟨0, 0, 0, 0⟩

def Clock.isValid (c : Clock) : Bool :=
  c.hour ≤ 23 ∧ c.minute ≤ 59 ∧ c.second ≤ 60

/-- The moment of a date and time of day in a zone `offset` seconds ahead. -/
def Moment.of? (date : Date) (clock : Clock) (offset : Int) : Option Moment :=
  if date.isValid ∧ clock.isValid then
    some {
      seconds := date.dayNumber * 86400 + clock.hour * 3600 + clock.minute * 60 +
        min clock.second 59 - offset
      nanos := clock.nanos + if clock.second = 60 then 1000000000 else 0 }
  else none

/-- Nanoseconds since the start of 1970. -/
def Moment.epochNanos (m : Moment) : Int :=
  (m.seconds - Date.dayNumber ⟨1970, 1, 1⟩ * 86400) * 1000000000 + m.nanos

end Toolflow.Calendar
