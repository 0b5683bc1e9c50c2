import Toolflow.Binary64.Reader
import Toolflow.Payload.Identifier
import Toolflow.Text.Blank

/-!
Readings of a value as a number and as a truth value, and the two equalities of conditions and
filters.
-/

namespace Toolflow.Payload

open Json

/-- Numbers, and strings that spell a number between blanks. -/
def number? : Value → Option Binary64
  | .number n => some n.toBinary64
  | .string s => Binary64.read? (Text.trim s.toList)
  | _ => none

/-- Null, `false`, zero and the empty string are false. -/
def isTruthy : Value → Bool
  | .null => false
  | .bool b => b
  | .number n => !n.toBinary64.equal (.ofInt 0)
  | .string s => s ≠ ""
  | .array _ => true
  | .object _ => true

/-- Equal as JSON, or close as numbers, or equal as strings. Null equals only itself. -/
def looseEqual (a b : Value) : Bool :=
  a.equal b ||
    match number? a, number? b with
    | some x, some y => x.near y
    | _, _ => !a.isNull && !b.isNull && coerced a == coerced b

/-- Equal as JSON, except that numbers of either notation are compared as close. -/
def strictEqual (a b : Value) : Bool :=
  match a, b with
  | .number x, .number y => x.toBinary64.near y.toBinary64
  | a, b => a.equal b

end Toolflow.Payload
