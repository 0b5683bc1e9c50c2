import Toolflow.Calendar.Reader
import Toolflow.Json.Printer

/-!
Sorting records by a property. The order puts numbers before strings, dates before other strings,
and what is missing or null last.
-/

namespace Toolflow.Record

open Json Calendar

inductive Direction where
  | ascending
  | descending
deriving DecidableEq

def kindRank : Value → Nat
  | .number _ => 0
  | .string _ => 1
  | _ => 2

def compareStrings (a b : String) : Ordering :=
  match Moment.read? a, Moment.read? b with
  | some x, some y => x.compare y
  | some _, none => .lt
  | none, some _ => .gt
  | none, none => Ord.compare a b

def compareValues (a b : Value) : Ordering :=
  match a, b with
  | .number x, .number y => (x.toBinary64.compare? y.toBinary64).getD .eq
  | .string s, .string t => compareStrings s t
  | a, b => (Ord.compare (kindRank a) (kindRank b)).then (Ord.compare a.text b.text)

/-- Null counts as missing. -/
def present? (v : Option Value) : Option Value :=
  v.filter fun v => !v.isNull

def compare (a b : Option Value) : Ordering :=
  match present? a, present? b with
  | none, none => .eq
  | none, some _ => .gt
  | some _, none => .lt
  | some a, some b => compareValues a b

def Direction.apply : Direction → Ordering → Ordering
  | .ascending, o => o
  | .descending, o => o.swap

/-- Stable: items that compare equal stay in their order in both directions. -/
def sort (items : List Value) (property : String) (direction : Direction) : List Value :=
  items.mergeSort fun a b =>
    direction.apply (compare (a.member? property) (b.member? property)) ≠ .gt

end Toolflow.Record
