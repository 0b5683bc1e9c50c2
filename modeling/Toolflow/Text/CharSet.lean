/-!
Sets of characters, given by inclusive ranges of code points.
-/

namespace Toolflow.Text

structure CharSet where
  ranges : List (Nat × Nat)

def CharSet.contains (s : CharSet) (c : Char) : Bool :=
  s.ranges.any fun r => decide (r.1 ≤ c.toNat ∧ c.toNat ≤ r.2)

end Toolflow.Text
