import Toolflow.Engine.Run
import Toolflow.Wire.Report

/-!
Running a batch given as JSON. A name that no tool has is reported with the position of its step,
ahead of whatever else keeps the batch from being decoded.
-/

namespace Toolflow

open Json

/-- The name that a submitted step gives, under `name` or else `toolName`. -/
def submittedName? (step : Value) : Option String :=
  ((step.member? "name").or (step.member? "toolName")).bind Value.string?

/-- The first submitted step that names no tool, with its name and position; the first of these is
at `position`. -/
def unknownName? (position : Nat) : List Value → Option (String × Nat)
  | [] => none
  | step :: rest =>
    match (submittedName? step).filter fun name => (ToolName.ofText? name).isNone with
    | some name => some (name, position)
    | none => unknownName? (position + 1) rest

/-- The batch that a value describes. -/
def Batch.ofValue (v : Value) : Except EngineError Batch :=
  (Wire.batch v).mapError fun fault => .structural (.undecodable fault)

def Batch.ofSubmission (v : Value) : Except BatchError Batch :=
  match unknownName? 1 (((v.member? "functions").bind Value.array?).getD []) with
  | some (name, position) => .error (.invalidStep (.unknownTool name) ⟨[], name, position⟩)
  | none => (Batch.ofValue v).mapError .rejected

/-- The outcome of a submitted batch. -/
def Engine.submit (e : Engine) (v : Value) (s : Session) : Outcome × Session :=
  match Batch.ofSubmission v with
  | .error error => (error.outcome, s)
  | .ok batch =>
    match e.run batch s with
    | (.error error, s) => (error.outcome, s)
    | (.ok report, s) => (report.outcome, s)

end Toolflow
