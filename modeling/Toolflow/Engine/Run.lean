import Toolflow.Batch.Report
import Toolflow.Batch.Step
import Toolflow.Condition.Evaluate
import Toolflow.Engine.Dispatch
import Toolflow.Resolution.Arguments

/-!
Running a batch. A batch that cannot be run is refused before any tool is called. Otherwise its
steps are taken one after another, each with the history of those before it, up to the first that
fails; then the keys that came with the outcomes are released.
-/

namespace Toolflow

/-- What the steps so far have left behind. -/
structure Progress where
  history : History := []
  last : Option Outcome := none
  /-- Keys that the outcomes came with. -/
  keys : List String := []
  warnings : Nat := 0

/-- Whether the condition of a step is there and does not hold. -/
def Progress.passesOver (p : Progress) (step : Step) : Bool :=
  step.condition.any fun c => !Condition.evaluate p.history p.last c

def Step.skipReason (step : Step) : String :=
  "Condition not met: " ++ step.condition.getD ""

def Progress.report (p : Progress) (batch : Batch) : Report where
  description := batch.description
  entries := p.history
  final := p.last
  warnings := p.warnings

inductive StepFailure where
  | tool (message : String)
  | validation (unmet : Unmet)

namespace StepFailure

/-- Why the outcome of a step stops a run. -/
def of? (rule : Option Rule) (o : Outcome) : Option StepFailure :=
  if o.success then (rule.bind fun r => r.unmet? o).map .validation
  else some (.tool (o.error.getD "tool reported failure"))

def error (f : StepFailure) (stop : Stop) : BatchError :=
  match f with
  | .tool message => .toolFailure message stop
  | .validation unmet => .validationFailure unmet stop

end StepFailure

namespace Engine

variable (e : Engine)

/-- Why a step cannot be run in this engine. -/
def stepError? (step : Step) : Option EngineError :=
  if !e.registry.contains step.name then some (.unknownTool step.name.text)
  else if asksToDefer step.args then some (.structural (.defersResult step.name))
  else none

/-- The first step that cannot be run; the first of these steps is at `position`. -/
def invalidStep? (position : Nat) : List Step → Option BatchError
  | [] => none
  | step :: rest =>
    match e.stepError? step with
    | some error => some (.invalidStep error ⟨[], step.name.text, position⟩)
    | none => invalidStep? (position + 1) rest

/-- Why a batch cannot be run in this engine. -/
def batchError? (batch : Batch) : Option BatchError :=
  if batch.steps.length = 0 then some (.rejected (.structural .noSteps))
  else if e.config.maxSteps.toNat < batch.steps.length then
    some (.rejected (.structural (.tooManySteps batch.steps.length e.config.maxSteps)))
  else e.invalidStep? 1 batch.steps

/-- Takes one step; if it fails, the progress is that before it, with its key and its warnings. -/
def takeStep (preserve : Bool) (step : Step) (p : Progress) (s : Session) :
    Option StepFailure × Progress × Session :=
  if p.passesOver step then
    (none, { p with history := p.history ++ [.passedOver step.name step.args step.skipReason] }, s)
  else
    let resolved := Resolution.resolveMembers e.config.keyPrefix p.history step.args
    let r := e.dispatch step.name.text resolved.1 preserve s
    let p := { p with keys := p.keys ++ r.1.cacheKey.toList,
                      warnings := p.warnings + resolved.2.length }
    match StepFailure.of? step.rule r.1 with
    | some failure => (some failure, p, r.2)
    | none =>
      (none, { p with history := p.history ++ [.executed step.name resolved.1 r.1],
                      last := some r.1 }, r.2)

/-- Takes the steps, of which the first is at `position`, up to one that fails. Results are
preserved but for the last. -/
def takeSteps (position : Nat) :
    List Step → Progress → Session → Option BatchError × Progress × Session
  | [], p, s => (none, p, s)
  | step :: rest, p, s =>
    match e.takeStep (!rest.isEmpty) step p s with
    | (some failure, p, s) => (some (failure.error ⟨p.history, step.name.text, position⟩), p, s)
    | (none, p, s) => takeSteps (position + 1) rest p s

/-- Releases the keys of a run, if the engine is to do so, and drops what has outlived its
lifespan. -/
def finish (p : Progress) (s : Session) : Session :=
  (e.purge (if e.config.cleanup then e.deleteAll p.keys s else s)).2

def run (batch : Batch) (s : Session) : Except BatchError Report × Session :=
  match e.batchError? batch with
  | some error => (.error error, s)
  | none =>
    let (error?, p, s) := e.takeSteps 1 batch.steps {} s
    (error?.elim (.ok (p.report batch)) .error, e.finish p s)

end Engine

end Toolflow
