import Toolflow.Batch.Rule
import Toolflow.Json.Printer
import Toolflow.Payload.Coercion
import Toolflow.Payload.Trades
import Toolflow.Resolution.Lookup
import Toolflow.Text.Fields

/-!
Checking the outcome of a step against a rule. The first check that is not met is reported.
-/

namespace Toolflow

open Json

inductive Unmet where
  | uncountable (kind : Kind)
  | belowMinimum (count : Nat) (minimum : UInt64)
  | aboveMaximum (count : Nat) (maximum : UInt64)
  | missingOrNull (field : String)
  | missing (field : String)
  | unexpected (field : String) (actual expected : Value)

def Unmet.message : Unmet → String
  | .uncountable kind => s!"cannot derive a count from a {kind.name} result"
  | .belowMinimum count minimum => s!"count {count} is below minCount {minimum}"
  | .aboveMaximum count maximum => s!"count {count} exceeds maxCount {maximum}"
  | .missingOrNull field => s!"field '{field}' is missing or null"
  | .missing field => s!"field '{field}' is missing"
  | .unexpected field actual expected =>
    s!"field '{field}' is " ++ actual.text ++ ", expected " ++ expected.text

namespace Rule

def checkCount (r : Rule) (data : Value) : Option Unmet :=
  if r.minCount.isNone && r.maxCount.isNone then none
  else match Payload.recordCount? data with
    | none => some (.uncountable data.kind)
    | some count =>
      ((r.minCount.filter fun m => count < m.toNat).map (.belowMinimum count)).or
        ((r.maxCount.filter fun m => m.toNat < count).map (.aboveMaximum count))

/-- The field at a path with dots; a path without segments leads nowhere. -/
def fieldAt? (o : Outcome) (path : String) : Option Value :=
  match Text.segments path.toList with
  | [] => none
  | path => (o.lookup path).toOption

def checkField (o : Outcome) (field : String) : Option Unmet :=
  match fieldAt? o field with
  | some v => if v.isNull then some (.missingOrNull field) else none
  | none => some (.missingOrNull field)

def checkValue (o : Outcome) (e : ExpectedField) : Option Unmet :=
  match fieldAt? o e.field with
  | some v => if Payload.strictEqual v e.value then none else some (.unexpected e.field v e.value)
  | none => some (.missing e.field)

/-- The first check that an outcome does not meet. -/
def unmet? (r : Rule) (o : Outcome) : Option Unmet :=
  (r.checkCount o.dataOrNull).or
    ((r.hasField.bind (checkField o)).or (r.fieldValue.bind (checkValue o)))

def accepts (r : Rule) (o : Outcome) : Bool :=
  (r.unmet? o).isNone

end Rule

end Toolflow
