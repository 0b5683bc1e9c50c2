import Toolflow.Wire.Fault

/-!
Errors of tools and of the engine.
-/

namespace Toolflow

inductive StructuralFault where
  | noSteps
  | tooManySteps (count : Nat) (limit : UInt64)
  /-- A step of a batch asks for a cache key in place of its result. -/
  | defersResult (tool : ToolName)
  | undecodable (fault : Wire.Fault)
  /-- A tool objects in its own words. -/
  | reported (message : String)

def StructuralFault.message : StructuralFault → String
  | .noSteps => "no functions to execute"
  | .tooManySteps count limit => s!"{count} functions exceed the limit of {limit}"
  | .defersResult tool =>
    tool.text ++ " sets returnCacheKey; results inside a batch must stay materialized"
  | .undecodable fault => fault.message
  | .reported message => message

inductive JsonFault where
  | undecodable (fault : Wire.Fault)
  | emptyText

def JsonFault.message : JsonFault → String
  | .undecodable fault => fault.message
  | .emptyText => "EOF while parsing a value at line 1 column 0"

inductive EngineError where
  | structural (fault : StructuralFault)
  | unknownTool (name : String)
  | processingFailed (message : String)
  | json (fault : JsonFault)

def EngineError.message : EngineError → String
  | .structural fault => "Invalid workflow: " ++ fault.message
  | .unknownTool name => s!"Unknown function: {name}"
  | .processingFailed message => s!"Tool processing failed: {message}"
  | .json fault => "JSON error: " ++ fault.message

end Toolflow
