import Toolflow.Binary64.Magnitude

/-!
Shortest decimal form of a magnitude: the fewest digits that read back as the same value, and of
those the nearest.
-/

namespace Toolflow

/-- The number `digits · 10^exponent`. -/
structure Decimal where
  digits : Nat
  exponent : Int
deriving DecidableEq

namespace Magnitude

/-- The decimal exponent of the leading digit: `10^e ≤ m < 10^(e+1)` for a nonzero magnitude. -/
def leadingExponent (m : Magnitude) : Int :=
  ((Nat.toDigits 10 (m.units * Nat.pow 10 324 / unitsPerOne)).length : Int) - 325

/-- `m / 10^exponent` as a fraction. -/
def scaled (m : Magnitude) (exponent : Int) : Nat × Nat :=
  if 0 ≤ exponent then (m.units, unitsPerOne * Nat.pow 10 exponent.toNat)
  else (m.units * Nat.pow 10 (-exponent).toNat, unitsPerOne)

def readsBack (m : Magnitude) (d : Decimal) : Bool :=
  ofDecimal? d.digits d.exponent == some m

/-- The point of the grid of multiples of `10^exponent` that reads back as `m`, the nearer of
two. -/
def onDecimalGrid? (m : Magnitude) (exponent : Int) : Option Decimal :=
  let (num, den) := m.scaled exponent
  let below : Decimal := ⟨num / den, exponent⟩
  let above : Decimal := ⟨num / den + 1, exponent⟩
  match m.readsBack below, m.readsBack above with
  | true, true => some ⟨roundQuotient num den, exponent⟩
  | true, false => some below
  | false, true => some above
  | false, false => none

/-- All digits of `m`, used where no shorter form reads back. -/
def exactDecimal (m : Magnitude) : Decimal :=
  ⟨m.units * Nat.pow 5 1074, -1074⟩

/-- Grids are tried from one significant digit up to seventeen. -/
def shortest (m : Magnitude) : Decimal :=
  let e := m.leadingExponent
  ((List.range 17).findSome? fun (n : Nat) => m.onDecimalGrid? (e - n)).getD m.exactDecimal

end Magnitude

end Toolflow
