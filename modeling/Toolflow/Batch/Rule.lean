import Toolflow.Json.Value

/-!
Declarative checks on the outcome of a step.
-/

namespace Toolflow

open Json

structure ExpectedField where
  /-- A path with dots. -/
  field : String
  value : Value

structure Rule where
  minCount : Option UInt64 := none
  maxCount : Option UInt64 := none
  /-- A path with dots. -/
  hasField : Option String := none
  fieldValue : Option ExpectedField := none

end Toolflow
