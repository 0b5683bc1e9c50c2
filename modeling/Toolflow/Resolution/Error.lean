import Toolflow.Payload.Path

/-!
Why a directive or a condition cannot be resolved.
-/

namespace Toolflow

open Json

inductive ConditionFault where
  | emptyExpression
  | missingOperand
  | nanComparison
  | unordered (left right : Value)

def ConditionFault.message : ConditionFault → String
  | .emptyExpression => "empty expression"
  | .missingOperand => "missing operand"
  | .nanComparison => "NaN comparison"
  | .unordered left right => "cannot order " ++ left.text ++ " and " ++ right.text

inductive ResolutionError where
  | historyIndex (index length : Nat)
  | noLastResult
  | path (error : Payload.PathError)
  | notAnArray (what : String) (kind : Kind)
  | invalidNumber (text : String)
  | malformed (text : String)
  | condition (fault : ConditionFault)

def ResolutionError.message : ResolutionError → String
  | .historyIndex index length =>
    s!"result index {index} out of range (history has {length} entries)"
  | .noLastResult => "no executed result available for LAST"
  | .path error => error.message
  | .notAnArray what kind => s!"expected an array at '{what}', found {kind.name}"
  | .invalidNumber text => s!"invalid number '{text}'"
  | .malformed text => s!"malformed directive '{text}'"
  | .condition fault => "cannot evaluate condition: " ++ fault.message

end Toolflow
