import Toolflow.Batch.History
import Toolflow.Batch.Step
import Toolflow.Wire.Outcome

/-!
Wire forms of rules, steps, batches and history entries.
-/

namespace Toolflow.Wire

open Json

def expectedField : Decoder ExpectedField :=
  record "FieldValueRule"
    (fun members => do
      let field ← field? string members "field"
      let value ← field? anything members "value"
      let field ← require "field" field
      let value ← require "value" value
      return { field, value })
    (do
      let field ← element string 0 (.recordOfSize "FieldValueRule" 2)
      let value ← element anything 1 (.recordOfSize "FieldValueRule" 2)
      return { field, value })

def encodeExpectedField (e : ExpectedField) : Value :=
  .object [("field", .string e.field), ("value", e.value)]

def rule : Decoder Rule :=
  record "ValidationRule"
    (fun members => do
      let fieldValue ← optional expectedField members "fieldValue"
      let hasField ← optional string members "hasField"
      let maxCount ← optional count members "maxCount"
      let minCount ← optional count members "minCount"
      return { minCount, maxCount, hasField, fieldValue })
    (do
      let minCount ← optionalElement count
      let maxCount ← optionalElement count
      let hasField ← optionalElement string
      let fieldValue ← optionalElement expectedField
      return { minCount, maxCount, hasField, fieldValue })

def encodeCount (n : UInt64) : Value :=
  .number (.ofUInt64 n)

def encodeRule (r : Rule) : Value :=
  .object (member? "fieldValue" (r.fieldValue.map encodeExpectedField) ++
    member? "hasField" (r.hasField.map .string) ++
    member? "maxCount" (r.maxCount.map encodeCount) ++
      member? "minCount" (r.minCount.map encodeCount))

/-- The name of a step stands under `name` or `toolName`, and not under both. -/
def stepName? (members : Members) : Except Fault (Option ToolName) := do
  let name ← field? toolName members "name"
  match name, Members.get? members "toolName" with
  | some _, some _ => .error (.duplicateField "name")
  | some name, none => return some name
  | none, some v => some <$> toolName v
  | none, none => return none

def step : Decoder Step :=
  record "StepDescriptor"
    (fun members => do
      let args ← field? map members "args"
      let condition ← optional string members "condition"
      let name ← stepName? members
      let rule ← optional rule members "validate"
      let name ← require "name" name
      return { name, args := args.getD [], condition, rule })
    (do
      let name ← element toolName 0 (.recordOfSize "StepDescriptor" 4)
      let args : Members ← fun
        | [] => .ok ([], [])
        | v :: rest => (·, rest) <$> map v
      let condition ← optionalElement string
      let rule ← optionalElement rule
      return { name, args, condition, rule })

def encodeStep (s : Step) : Value :=
  .object (("args", .object s.args) :: member? "condition" (s.condition.map .string) ++
    [("name", encodeToolName s.name)] ++ member? "validate" (s.rule.map encodeRule))

def batch : Decoder Batch :=
  record "StepBatch"
    (fun members => do
      let description ← optional string members "description"
      let steps ← field? (sequence step) members "functions"
      let steps ← require "functions" steps
      return { description, steps })
    (do
      let description ← optionalElement string
      let steps ← element (sequence step) 1 (.recordOfSize "StepBatch" 2)
      return { description, steps })

def encodeBatch (b : Batch) : Value :=
  .object (member? "description" (b.description.map .string) ++
    [("functions", .array (b.steps.map encodeStep))])

def entry : Decoder Entry :=
  record "HistoryEntry"
    (fun members => do
      let args ← field? map members "resolvedArgs"
      let outcome ← field? outcome members "result"
      let skipReason ← optional string members "skipReason"
      let skipped ← field? boolean members "skipped"
      let name ← field? toolName members "toolName"
      let name ← require "toolName" name
      let args ← require "resolvedArgs" args
      let outcome ← require "result" outcome
      let skipped ← require "skipped" skipped
      return { name, args, outcome, skipped, skipReason })
    (do
      let name ← element toolName 0 (.recordOfSize "HistoryEntry" 5)
      let args ← element map 1 (.recordOfSize "HistoryEntry" 5)
      let outcome ← element outcome 2 (.recordOfSize "HistoryEntry" 5)
      let skipped ← element boolean 3 (.recordOfSize "HistoryEntry" 5)
      let skipReason ← optionalElement string
      return { name, args, outcome, skipped, skipReason })

def encodeEntry (e : Entry) : Value :=
  .object ([("resolvedArgs", .object e.args), ("result", encodeOutcome e.outcome)] ++
    member? "skipReason" (e.skipReason.map .string) ++
    [("skipped", .bool e.skipped), ("toolName", encodeToolName e.name)])

end Toolflow.Wire
