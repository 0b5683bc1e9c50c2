import Toolflow.Json.Printer
import Toolflow.Text.Quoted
import Toolflow.Tool.Name

/-!
Why a value does not decode.
-/

namespace Toolflow.Wire

open Json

/-- What was expected in its place. -/
inductive Expected where
  | boolean
  | string
  | map
  | sequence
  | unit
  | count
  | seconds
  | nanoseconds
  | record (name : String)
  | recordOfSize (name : String) (size : Nat)
  | fewerElements
  | stringOrMap
  | singleKeyMap

def Expected.text : Expected → String
  | .boolean => "a boolean"
  | .string => "a string"
  | .map => "a map"
  | .sequence => "a sequence"
  | .unit => "unit"
  | .count => "usize"
  | .seconds => "u64"
  | .nanoseconds => "u32"
  | .record name => s!"struct {name}"
  | .recordOfSize name size => s!"struct {name} with {size} elements"
  | .fewerElements => "fewer elements in array"
  | .stringOrMap => "string or map"
  | .singleKeyMap => "map with a single key"

inductive Fault where
  | invalidType (found : Value) (expected : Expected)
  | invalidValue (found : Value) (expected : Expected)
  | invalidLength (length : Nat) (expected : Expected)
  | missingField (name : String)
  | duplicateField (name : String)
  | unknownField (name : String) (known : List String)
  | unknownTool (name : String)
  | lifespanOverflow

/-- Scalars are shown and containers named. -/
def describe : Value → String
  | .null => "null"
  | .bool b => s!"boolean `{b}`"
  | .number (.int n _) => s!"integer `{n}`"
  | .number (.float negative m) =>
    "floating point `" ++ (Value.number (.float negative m)).text ++ "`"
  | .string s => "string " ++ Text.quoted s
  | .array _ => "sequence"
  | .object _ => "map"

def ticked (name : String) : String :=
  s!"`{name}`"

def Fault.message : Fault → String
  | .invalidType found expected =>
    s!"invalid type: " ++ describe found ++ ", expected " ++ expected.text
  | .invalidValue found expected =>
    s!"invalid value: " ++ describe found ++ ", expected " ++ expected.text
  | .invalidLength length expected => s!"invalid length {length}, expected " ++ expected.text
  | .missingField name => "missing field " ++ ticked name
  | .duplicateField name => "duplicate field " ++ ticked name
  | .unknownField name known =>
    "unknown field " ++ ticked name ++ ", expected " ++ " or ".intercalate (known.map ticked)
  | .unknownTool name =>
    "unknown variant " ++ ticked name ++ ", expected one of " ++
      ", ".intercalate (ToolName.all.map fun tool => ticked tool.text)
  | .lifespanOverflow => "overflow deserializing Duration"

end Toolflow.Wire
