import Toolflow.Payload.Coercion

/-!
Cutting a list of records down: by position, and by what they hold under a property.
-/

namespace Toolflow.Record

open Json

inductive Comparison where
  | gt | lt | ge | le
deriving DecidableEq

/-- No comparison with NaN holds. -/
def Comparison.holds (c : Comparison) (a b : Binary64) : Bool :=
  match c, a.compare? b with
  | .gt, some .gt => true
  | .lt, some .lt => true
  | .ge, some o => o ≠ .lt
  | .le, some o => o ≠ .gt
  | _, _ => false

inductive Predicate where
  | compare (comparison : Comparison) (operand : Binary64)
  | win
  | loss
  | equals (text : String)
deriving DecidableEq

/-- Equality of strings up to the case of ASCII letters. -/
def sameLabel (a b : String) : Bool :=
  a.toList.map Char.toLower = b.toList.map Char.toLower

/-- Numbers are judged by their sign and other strings by their label. -/
def hasOutcome (sign : Comparison) (label : String) (v : Value) : Bool :=
  match Payload.number? v with
  | some x => sign.holds x (.ofInt 0)
  | none => v.string?.any (sameLabel label)

def Predicate.holds (p : Predicate) (v : Value) : Bool :=
  match p with
  | .compare comparison operand => (Payload.number? v).any fun x => comparison.holds x operand
  | .win => hasOutcome .gt "win" v
  | .loss => hasOutcome .lt "loss" v
  | .equals text => Payload.looseEqual v (.string text)

/-- The items that have the property and whose value satisfies the predicate. -/
def filter (items : List Value) (property : String) (p : Predicate) : List Value :=
  items.filter fun item => (item.member? property).any p.holds

/-- The items from position `start` up to, but not including, `stop`, as far as there are any. -/
def slice (items : List Value) (start stop : Nat) : List Value :=
  (items.take stop).drop start

end Toolflow.Record
