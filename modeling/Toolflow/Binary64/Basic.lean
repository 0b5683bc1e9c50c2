import Toolflow.Binary64.Magnitude

/-!
Values of the 64-bit binary floating-point format with their order. All comparisons go through
`rank`, an integer that orders the values other than NaN.
-/

namespace Toolflow

inductive Binary64 where
  | nan
  | infinite (negative : Bool)
  | finite (negative : Bool) (magnitude : Magnitude)
deriving DecidableEq

namespace Binary64

def ofMagnitude? (negative : Bool) : Option Magnitude → Binary64
  | some m => .finite negative m
  | none => .infinite negative

/-- The value nearest to an integer. -/
def ofInt (n : Int) : Binary64 :=
  ofMagnitude? (decide (n < 0)) (Magnitude.ofNat? n.natAbs)

def isFinite : Binary64 → Bool
  | .finite _ _ => true
  | _ => false

def signed (negative : Bool) (n : Nat) : Int :=
  if negative then -n else n

/-- Place in the order, in units; infinities lie just outside the finite values, and both zeros
share one place. -/
def rank : Binary64 → Option Int
  | .nan => none
  | .infinite negative => some (signed negative unitsLimit)
  | .finite negative m => some (signed negative m.units)

/-- Numerical comparison; NaN compares with nothing. -/
def compare? (a b : Binary64) : Option Ordering :=
  match a.rank, b.rank with
  | some x, some y => some (compare x y)
  | _, _ => none

def equal (a b : Binary64) : Bool :=
  a.compare? b == some .eq

/-- Whether the rounded difference of two values is smaller than 2⁻⁵² in magnitude. -/
def near : Binary64 → Binary64 → Bool
  | .finite s a, .finite t b =>
    match Magnitude.nearest? (signed s a.units - signed t b.units).natAbs 1 with
    | some d => decide (d.units < Nat.pow 2 1022)
    | none => false
  | _, _ => false

/-- Largest count that a truncated value may take. -/
def countLimit : Nat :=
  UInt64.size - 1

/-- Truncation toward zero into the natural numbers up to `countLimit`; what lies outside goes to
the nearer end. -/
def toCount : Binary64 → Nat
  | .nan => 0
  | .infinite negative => if negative then 0 else countLimit
  | .finite negative m => if negative then 0 else min (m.units / unitsPerOne) countLimit

end Binary64

end Toolflow
