import Toolflow.Binary64.Basic

/-!
JSON numbers: integers of the signed and unsigned 64-bit ranges, and finite binary64 values.
-/

namespace Toolflow.Json

inductive Number where
  /-- From −2⁶³ up to 2⁶⁴, the latter left out. -/
  | int (n : Int) (inRange : -0x8000000000000000 ≤ n ∧ n < 0x10000000000000000)
  | float (negative : Bool) (magnitude : Magnitude)
deriving DecidableEq

namespace Number

/-- An integer outside the two ranges has no exact number. -/
def ofInt? (n : Int) : Option Number :=
  if h : -0x8000000000000000 ≤ n ∧ n < 0x10000000000000000 then some (.int n h) else none

def ofUInt64 (n : UInt64) : Number :=
  .int n.toNat ⟨by omega, by have := n.toNat_lt; omega⟩

/-- Counts beyond the unsigned range stay at its end. -/
def ofCount (n : Nat) : Number :=
  .int (min n Binary64.countLimit : Nat)
    ⟨by omega, by simp only [Binary64.countLimit, UInt64.size]; omega⟩

/-- The nearest binary64 value. -/
def toBinary64 : Number → Binary64
  | .int n _ => .ofInt n
  | .float negative m => .finite negative m

/-- Integers are equal as integers and floats by value; an integer never equals a float. -/
def equal : Number → Number → Bool
  | .int m _, .int n _ => m == n
  | .float s a, .float t b => (Binary64.finite s a).equal (.finite t b)
  | _, _ => false

end Number

end Toolflow.Json
