import Toolflow.Payload.Trades

/-!
What a tool expects of a payload that comes to it by cache key.
-/

namespace Toolflow

open Json

inductive Shape where
  /-- A bare list of identifiers. -/
  | ids
  /-- A list of records. -/
  | records
  /-- The payload as it was kept. -/
  | raw
deriving DecidableEq

namespace Shape

/-- The shape that the name of an argument suggests. -/
def ofArgument (argument : String) : Shape :=
  if argument = "tradeIds" ∨ argument = "ids" then .ids
  else if argument = "trades" ∨ argument = "records" then .records
  else .raw

/-- The part of a payload that has the shape; the whole payload if there is none. -/
def unwrap (shape : Shape) (data : Value) : Value :=
  match shape with
  | .ids => (Payload.ids? data).elim data .array
  | .records => (Payload.records? data).elim data .array
  | .raw => data

/-- Stands in for a payload that is not there. -/
def fallback : Shape → Value
  | .ids => .array []
  | .records => .array []
  | .raw => .null

end Shape

end Toolflow
