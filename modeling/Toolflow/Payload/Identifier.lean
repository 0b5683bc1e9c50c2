import Toolflow.Json.Printer

/-!
Trade identifiers inside payloads.
-/

namespace Toolflow.Payload

open Json

/-- Keys that may hold the identifier of a trade, in the order in which they are looked up. -/
def identifierKeys : List String :=
  ["id", "tradeId", "trade_id"]

/-- Strings and numbers are identifiers. -/
def asIdentifier? : Value → Option Value
  | .string s => some (.string s)
  | .number n => some (.number n)
  | _ => none

/-- The identifier of a trade: the value itself, or what an object holds under the first identifier
key present. -/
def identifier? : Value → Option Value
  | .object members => (identifierKeys.findSome? (Members.get? members)).bind asIdentifier?
  | v => asIdentifier? v

/-- Strings stand for themselves and other values for their JSON text. -/
def coerced : Value → String
  | .string s => s
  | v => v.text

/-- Identifiers match when they have the same key: `1` and `"1"` do. -/
def identityKey (identifier : Value) : String :=
  coerced identifier

end Toolflow.Payload
