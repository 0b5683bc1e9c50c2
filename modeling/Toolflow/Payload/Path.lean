import Toolflow.Payload.Identifier
import Toolflow.Text.Count

/-!
Walking a path of segments from a payload.
-/

namespace Toolflow.Payload

open Json

inductive PathError where
  | missingField (segment : String) (available : List String)
  | indexOutOfRange (index length : Nat)
  | notTraversable (segment : String) (kind : Kind)
deriving DecidableEq

def PathError.message : PathError → String
  | .missingField segment available =>
    s!"field '{segment}' not found (available keys: " ++ ", ".intercalate available ++ ")"
  | .indexOutOfRange index length => s!"index {index} out of range for array of length {length}"
  | .notTraversable segment kind => s!"cannot read '{segment}' from a {kind.name} value"

/-- What the last segment of a path may ask of an array besides an element: its `length`, or every
`id` in it. -/
def arrayProperty? (items : List Value) (segment : String) : Option Value :=
  if segment = "length" then some (.ofCount items.length)
  else if segment = "id" then some (.array (items.filterMap identifier?))
  else none

/-- Objects are entered by key and arrays by index. -/
def lookup (v : Value) : List String → Except PathError Value
  | [] => .ok v
  | segment :: rest =>
    match v with
    | .object members =>
      match Members.get? members segment with
      | some v => lookup v rest
      | none => .error (.missingField segment (Members.keys members))
    | .array items =>
      match Text.readCount? segment.toList with
      | some index =>
        match items[index]? with
        | some v => lookup v rest
        | none => .error (.indexOutOfRange index items.length)
      | none =>
        match (if rest = [] then arrayProperty? items segment else none) with
        | some v => .ok v
        | none => .error (.notTraversable segment .array)
    | v => .error (.notTraversable segment v.kind)

end Toolflow.Payload
