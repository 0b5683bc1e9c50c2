import Toolflow.Batch.Rule
import Toolflow.Tool.Name

/-!
The steps of a batch.
-/

namespace Toolflow

open Json

structure Step where
  name : ToolName
  /-- May contain directives at any depth. -/
  args : Members
  /-- The step is passed over unless this expression holds. -/
  condition : Option String := none
  /-- The run stops unless the outcome satisfies this rule. -/
  rule : Option Rule := none

/-- Arguments that are not an object count as none. -/
def Step.of (name : ToolName) (args : Value) : Step where
  name
  args := match args with
    | .object members => members
    | _ => []

structure Batch where
  description : Option String := none
  steps : List Step

end Toolflow
