import Toolflow.Tool.Name
import Toolflow.Tool.Outcome

/-!
The record of the steps done so far, in order.
-/

namespace Toolflow

open Json

structure Entry where
  name : ToolName
  args : Members
  outcome : Outcome
  skipped : Bool
  skipReason : Option String

abbrev History := List Entry

/-- Of a step whose tool was called. -/
def Entry.executed (name : ToolName) (args : Members) (outcome : Outcome) : Entry where
  name
  args
  outcome
  skipped := false
  skipReason := none

/-- Of a step that was passed over; its arguments stay as submitted. -/
def Entry.passedOver (name : ToolName) (args : Members) (reason : String) : Entry where
  name
  args
  outcome := .skipped reason
  skipped := true
  skipReason := some reason

/-- The last entry whose tool was called, with its position. -/
def History.lastExecuted? (history : History) : Option (Nat × Entry) :=
  (history.zipIdx.reverse.find? fun e => !e.1.skipped).map fun e => (e.2, e.1)

end Toolflow
