import Toolflow.Json.Reader
import Toolflow.Payload.Coercion
import Toolflow.Resolution.Error
import Toolflow.Text.Fields

/-!
Expressions without references: an operand, or two operands around an operator, after any number of
exclamation marks.
-/

namespace Toolflow.Condition

open Json Text

inductive Operator where
  | strictEq | strictNe | looseEq | looseNe | ge | le | gt | lt
deriving DecidableEq

/-- An operator stands behind those that begin like it and are longer. -/
def operators : List (String × Operator) :=
  [("===", .strictEq), ("!==", .strictNe), ("==", .looseEq), ("!=", .looseNe),
   (">=", .ge), ("<=", .le), (">", .gt), ("<", .lt)]

def readOperator? (cs : List Char) : Option (Operator × List Char) :=
  operators.findSome? fun o => (after? o.1 cs).map (o.2, ·)

/-- Where a scan stands with respect to quotes. -/
inductive Quoting where
  | outside
  | inside (quote : Char)
  /-- After a backslash. -/
  | escaped (quote : Char)
deriving DecidableEq

def isQuote (c : Char) : Bool :=
  c == '"' || c == '\''

def Quoting.next : Quoting → Char → Quoting
  | .outside, c => if isQuote c then .inside c else .outside
  | .inside quote, c =>
    if c = '\\' then .escaped quote else if c = quote then .outside else .inside quote
  | .escaped quote, _ => .inside quote

/-- The text before and after the first operator outside quotes. -/
def splitOperator? (quoting : Quoting) : List Char → Option (List Char × Operator × List Char)
  | [] => none
  | c :: cs =>
    match if quoting = .outside then readOperator? (c :: cs) else none with
    | some (operator, rest) => some ([], operator, rest)
    | none => (splitOperator? (quoting.next c) cs).map fun (before, rest) => (c :: before, rest)

/-- The inside of a text in single quotes. -/
def singleQuoted? : List Char → Option (List Char)
  | '\'' :: cs => if cs.getLast? = some '\'' then some cs.dropLast else none
  | _ => none

/-- A JSON text, a string in single quotes, or else the bare text. -/
def readOperand (cs : List Char) : Except ConditionFault Value :=
  let text := trim cs
  if text = [] then .error .missingOperand
  else match Json.read? text with
    | some v => .ok v
    | none => .ok (.string (String.ofList ((singleQuoted? text).getD text)))

/-- Numbers, and strings that spell numbers, are ordered as such, and other strings by their
characters. -/
def order (left right : Value) : Except ConditionFault Ordering :=
  match Payload.number? left, Payload.number? right with
  | some x, some y =>
    match x.compare? y with
    | some o => .ok o
    | none => .error .nanComparison
  | _, _ =>
    match left, right with
    | .string s, .string t => .ok (compare s t)
    | left, right => .error (.unordered left right)

def Operator.apply (operator : Operator) (left right : Value) : Except ConditionFault Bool :=
  match operator with
  | .strictEq => .ok (Payload.strictEqual left right)
  | .strictNe => .ok (!Payload.strictEqual left right)
  | .looseEq => .ok (Payload.looseEqual left right)
  | .looseNe => .ok (!Payload.looseEqual left right)
  | .gt => (· == .gt) <$> order left right
  | .lt => (· == .lt) <$> order left right
  | .ge => (· != .lt) <$> order left right
  | .le => (· != .gt) <$> order left right

/-- Whether an odd number of exclamation marks stands in front, and what follows them. One that
begins an operator does not count. -/
def stripNegations (negated : Bool) : List Char → Bool × List Char
  | [] => (negated, [])
  | c :: cs =>
    if isBlank c then stripNegations negated cs
    else if c = '!' ∧ cs.head? ≠ some '=' then stripNegations (!negated) cs
    else (negated, c :: cs)

def evaluateComparison (cs : List Char) : Except ConditionFault Bool :=
  match splitOperator? .outside cs with
  | some (left, operator, right) => do operator.apply (← readOperand left) (← readOperand right)
  | none => Payload.isTruthy <$> readOperand cs

def evaluateExpression (cs : List Char) : Except ConditionFault Bool :=
  let (negated, body) := stripNegations false (trimEnd cs)
  if body = [] then .error .emptyExpression else (negated != ·) <$> evaluateComparison body

end Toolflow.Condition
