import Toolflow.Calendar.Moment
import Toolflow.Text.Blank
import Toolflow.Text.Count

/-!
Reading moments. Three notations are tried in turn: a strict date-time with a zone, a lenient
date-time without one, and a lenient date, which means its midnight.
-/

namespace Toolflow.Calendar

open Toolflow.Text

/-- At least `least` digits, of which `most` are taken. -/
def readNumber (least most : Nat) (cs : List Char) : Option (Nat × List Char) :=
  let digits := (cs.take most).takeWhile Char.isDigit
  if digits.length < least then none else some (ofDigits digits, cs.drop digits.length)

def readChar (expected : Char) : List Char → Option (List Char)
  | [] => none
  | c :: cs => if c = expected then some cs else none

/-- An optional point with digits after it; those past the ninth are ignored. -/
def readFraction : List Char → Option (Nat × List Char)
  | '.' :: cs =>
    let (digits, rest) := cs.span Char.isDigit
    if digits = [] then none
    else some (ofDigits (digits.take 9) * Nat.pow 10 (9 - (digits.take 9).length), rest)
  | cs => some (0, cs)

/-- Seconds that a zone is ahead: `Z`, or a sign with two digits for the hours and two for the
minutes. -/
def readZone : List Char → Option (Int × List Char)
  | [] => none
  | c :: cs =>
    if c = 'Z' ∨ c = 'z' then some (0, cs)
    else do
      let sign : Int ←
        if c = '+' then some 1 else if c = '-' ∨ c = '\u2212' then some (-1) else none
      let (hours, cs) ← readNumber 2 2 cs
      let cs ← readChar ':' cs
      let (minutes, cs) ← readNumber 2 2 cs
      if hours ≤ 23 ∧ minutes ≤ 59 then some (sign * (hours * 3600 + minutes * 60 : Nat), cs)
      else none

/-- `YYYY-MM-DD`, then `T`, `t` or a space, `HH:MM:SS`, an optional fraction and the zone. -/
def readZoned (cs : List Char) : Option Moment := do
  let (year, cs) ← readNumber 4 4 cs
  let cs ← readChar '-' cs
  let (month, cs) ← readNumber 2 2 cs
  let cs ← readChar '-' cs
  let (day, cs) ← readNumber 2 2 cs
  let cs ← (readChar 'T' cs).or ((readChar 't' cs).or (readChar ' ' cs))
  let (hour, cs) ← readNumber 2 2 cs
  let cs ← readChar ':' cs
  let (minute, cs) ← readNumber 2 2 cs
  let cs ← readChar ':' cs
  let (second, cs) ← readNumber 2 2 cs
  let (nanos, cs) ← readFraction cs
  let (offset, cs) ← readZone cs
  if cs = [] then Moment.of? ⟨year, month, day⟩ ⟨hour, minute, second, nanos⟩ offset else none

/-- One or two digits after any blanks. -/
def readField (cs : List Char) : Option (Nat × List Char) :=
  readNumber 1 2 (trimStart cs)

/-- A year without a sign has at most four digits. -/
def readYear (cs : List Char) : Option (Int × List Char) :=
  match trimStart cs with
  | '-' :: cs => (readNumber 1 cs.length cs).map fun (year, cs) => (-(year : Int), cs)
  | '+' :: cs => (readNumber 1 cs.length cs).map fun (year, cs) => ((year : Int), cs)
  | cs => (readNumber 1 4 cs).map fun (year, cs) => ((year : Int), cs)

def readDate (cs : List Char) : Option (Date × List Char) := do
  let (year, cs) ← readYear cs
  let cs ← readChar '-' cs
  let (month, cs) ← readField cs
  let cs ← readChar '-' cs
  let (day, cs) ← readField cs
  return (⟨year, month, day⟩, cs)

def readClock (cs : List Char) : Option (Clock × List Char) := do
  let (hour, cs) ← readField cs
  let cs ← readChar ':' cs
  let (minute, cs) ← readField cs
  let cs ← readChar ':' cs
  let (second, cs) ← readField cs
  let (nanos, cs) ← readFraction cs
  return (⟨hour, minute, second, nanos⟩, cs)

/-- Date and time are separated by `T`, or else by any blanks or none. -/
def readLocal (cs : List Char) : Option Moment := do
  let (date, cs) ← readDate cs
  let (clock, cs) ← ((readChar 'T' cs).bind readClock).or (readClock (trimStart cs))
  if cs = [] then Moment.of? date clock 0 else none

def readDay (cs : List Char) : Option Moment := do
  let (date, cs) ← readDate cs
  if cs = [] then Moment.of? date .midnight 0 else none

def Moment.read? (s : String) : Option Moment :=
  ((readZoned s.toList).or (readLocal s.toList)).or (readDay s.toList)

end Toolflow.Calendar
