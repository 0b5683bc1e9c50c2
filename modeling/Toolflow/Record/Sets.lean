import Toolflow.Payload.Identifier

/-!
Set operations on lists. Items with the same key count as one, and the first of them stands for all.
-/

namespace Toolflow.Record

open Json

inductive SetOperation where
  | merge
  | unique
  | intersect
deriving DecidableEq

section

variable {α : Type}

/-- The first item of each key. -/
def distinctBy (key : α → String) : List α → List α
  | [] => []
  | x :: xs => x :: (distinctBy key xs).filter fun y => key y ≠ key x

def hasKey (key : α → String) (k : String) (items : List α) : Bool :=
  items.any fun x => key x = k

/-- The first item of each key of the first list that occurs in all others. -/
def intersectBy (key : α → String) : List (List α) → List α
  | [] => []
  | first :: others => (distinctBy key first).filter fun x => others.all (hasKey key (key x))

def combineBy (key : α → String) (operation : SetOperation) (lists : List (List α)) : List α :=
  match operation with
  | .merge => lists.flatten
  | .unique => distinctBy key lists.flatten
  | .intersect => intersectBy key lists

end

/-- A record is known by its identifier, or by its JSON text when it has none. -/
def identity (record : Value) : String :=
  match Payload.identifier? record with
  | some identifier => Payload.identityKey identifier
  | none => record.text

def combineIds : SetOperation → List (List Value) → List Value :=
  combineBy Payload.identityKey

def combineRecords : SetOperation → List (List Value) → List Value :=
  combineBy identity

end Toolflow.Record
