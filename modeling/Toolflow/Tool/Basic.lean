import Toolflow.Engine.Error
import Toolflow.Tool.Outcome
import Toolflow.Tool.Shape

/-!
Tools that steps can call.
-/

namespace Toolflow

open Json

structure Call where
  name : ToolName
  args : Members

def isLargeByCount (data : Value) (threshold : Nat) : Bool :=
  (Payload.recordCount? data).any fun count => threshold < count

structure Tool where
  name : ToolName
  description : String
  /-- A schema of its arguments. -/
  schema : Value := .object [("type", .string "object")]
  /-- What an argument expects of a payload that comes to it by cache key. -/
  shape : String → Shape := Shape.ofArgument
  /-- Whether data has too many records for a threshold. -/
  isLarge : Value → Nat → Bool := isLargeByCount
  /-- The reply may depend on all calls before, of this tool and of others. -/
  respond : List Call → Members → Except EngineError Outcome

end Toolflow
