import Toolflow.Record.Filter
import Toolflow.Record.Sets
import Toolflow.Record.Sort

/-!
Directives: strings among the arguments of a step that stand for data of earlier steps.
-/

namespace Toolflow

/-- The entry of the history that a directive reads. -/
inductive Source where
  | index (n : Nat)
  /-- The last entry that was not passed over. -/
  | last
deriving DecidableEq

inductive Directive where
  | field (source : Source) (path : List String)
  | idSet (operation : Record.SetOperation) (indices : List Nat)
  | recordSet (operation : Record.SetOperation) (indices : List Nat)
  | slice (source : Source) (path : List String) (start stop : Nat)
  | filter (source : Source) (list property : String) (predicate : Record.Predicate)
  | sort (source : Source) (list property : String) (direction : Record.Direction)
  | whole (source : Source)
  | ids (source : Source)
  | records (source : Source)
  /-- Left for the dispatcher. -/
  | cacheKey (key : String)
  /-- Begins like a directive and is none. -/
  | malformed (text : String)
  /-- Ordinary text. -/
  | literal
deriving DecidableEq

end Toolflow
