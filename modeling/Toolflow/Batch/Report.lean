import Toolflow.Batch.History
import Toolflow.Batch.Validation
import Toolflow.Engine.Error

/-!
What the run of a batch comes to: a report of all steps, or an error with the steps done before it.
-/

namespace Toolflow

structure Report where
  description : Option String
  /-- Every step in order, those passed over included. -/
  entries : History
  /-- Of the last step whose tool was called. -/
  final : Option Outcome
  /-- Number of directives that gave way to an empty array. -/
  warnings : Nat

def Report.total (r : Report) : Nat :=
  r.entries.length

def Report.passedOver (r : Report) : Nat :=
  r.entries.countP Entry.skipped

/-- How far a run got that failed. -/
structure Stop where
  completed : History
  /-- The name of the failed step as written, which may be that of no tool. -/
  name : String
  /-- Of the failed step, from 1. -/
  position : Nat

inductive BatchError where
  /-- The batch as a whole cannot be run. -/
  | rejected (error : EngineError)
  /-- A step cannot be run; no tool was called. -/
  | invalidStep (error : EngineError) (stop : Stop)
  | toolFailure (message : String) (stop : Stop)
  | validationFailure (unmet : Unmet) (stop : Stop)

namespace BatchError

def stop? : BatchError → Option Stop
  | .rejected _ => none
  | .invalidStep _ stop => some stop
  | .toolFailure _ stop => some stop
  | .validationFailure _ stop => some stop

def message : BatchError → String
  | .rejected error => error.message
  | .invalidStep error stop => error.message ++ s!" (step {stop.position})"
  | .toolFailure message stop => s!"{stop.name} failed at step {stop.position}: {message}"
  | .validationFailure unmet stop =>
    s!"Validation failed for {stop.name} at step {stop.position}: " ++ unmet.message

end BatchError

end Toolflow
