import Toolflow.Condition.Expression
import Toolflow.Condition.Reference

/-!
Evaluating conditions. What cannot be evaluated is false.
-/

namespace Toolflow.Condition

variable (history : History) (last : Option Outcome) (condition : String)

def evaluate? : Resolved Bool := do
  let expression ← substitute history last condition
  (evaluateExpression expression).mapError .condition

def evaluate : Bool :=
  match evaluate? history last condition with
  | .ok b => b
  | .error _ => false

end Toolflow.Condition
