import Toolflow.Directive.Reader
import Toolflow.Resolution.Evaluate

/-!
Resolving the arguments of a step: every string that is a directive gives way to its value, or to an
empty array and a warning if it has none. What is put in is not looked at again.
-/

namespace Toolflow.Resolution

open Json

variable (keyPrefix : String) (history : History)

/-- A string resolved, with the warnings that arose. -/
def resolveText (text : String) : Value × List String :=
  match Directive.read keyPrefix text with
  | .literal => (.string text, [])
  | directive =>
    match directive.evaluate history with
    | .ok v => (v, [])
    | .error e => (.array [], [text ++ ": " ++ e.message])

mutual

def resolve : Value → Value × List String
  | .string text => resolveText keyPrefix history text
  | .array items =>
    let r := resolveItems items
    (.array r.1, r.2)
  | .object members =>
    let r := resolveMembers members
    (.object r.1, r.2)
  | .null => (.null, [])
  | .bool b => (.bool b, [])
  | .number n => (.number n, [])

def resolveItems : List Value → List Value × List String
  | [] => ([], [])
  | v :: rest =>
    let r := resolve v
    let s := resolveItems rest
    (r.1 :: s.1, r.2 ++ s.2)

/-- Members in order, with the warnings in that order. -/
def resolveMembers : List (String × Value) → List (String × Value) × List String
  | [] => ([], [])
  | (key, v) :: rest =>
    let r := resolve v
    let s := resolveMembers rest
    ((key, r.1) :: s.1, r.2 ++ s.2)

end

end Toolflow.Resolution
