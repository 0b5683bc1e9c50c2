import Toolflow.Batch.History
import Toolflow.Directive.Basic
import Toolflow.Payload.Trades
import Toolflow.Resolution.Error
import Toolflow.Resolution.Lookup

/-!
Evaluating directives against the history.
-/

namespace Toolflow

open Json

abbrev Resolved (α : Type) := Except ResolutionError α

namespace History

/-- The entry that a source names, with its position. -/
def entryAt (history : History) : Source → Resolved (Nat × Entry)
  | .index n =>
    match history[n]? with
    | some entry => .ok (n, entry)
    | none => .error (.historyIndex n history.length)
  | .last =>
    match history.lastExecuted? with
    | some found => .ok found
    | none => .error .noLastResult

end History

namespace Outcome

def lookupResolved (o : Outcome) (path : List String) : Resolved Value :=
  (o.lookup path).mapError .path

def arrayAt (o : Outcome) (path : List String) : Resolved (List Value) := do
  match ← o.lookupResolved path with
  | .array items => return items
  | v => .error (.notAnArray (".".intercalate path) v.kind)

/-- A list in the outcome of the step at a position. -/
def listAt (o : Outcome) (l : Payload.Listing) (position : Nat) : Resolved (List Value) :=
  match l.read o.dataOrNull with
  | some items => .ok items
  | none => .error (.notAnArray (l.noun ++ s!" of result {position}") o.dataOrNull.kind)

end Outcome

def History.listAt (history : History) (l : Payload.Listing) (source : Source) :
    Resolved (List Value) := do
  let (position, entry) ← history.entryAt source
  entry.outcome.listAt l position

namespace Directive

/-- The value that a directive stands for. -/
def evaluate (history : History) : Directive → Resolved Value
  | .field source path => do
    let (_, entry) ← history.entryAt source
    entry.outcome.lookupResolved path
  | .idSet operation indices => do
    return .array (Record.combineIds operation
      (← indices.mapM fun n => history.listAt .ids (.index n)))
  | .recordSet operation indices => do
    return .array (Record.combineRecords operation
      (← indices.mapM fun n => history.listAt .records (.index n)))
  | .slice source path start stop => do
    let (_, entry) ← history.entryAt source
    return .array (Record.slice (← entry.outcome.arrayAt path) start stop)
  | .filter source list property predicate => do
    let (_, entry) ← history.entryAt source
    return .array (Record.filter (← entry.outcome.arrayAt [list]) property predicate)
  | .sort source list property direction => do
    let (_, entry) ← history.entryAt source
    return .array (Record.sort (← entry.outcome.arrayAt [list]) property direction)
  | .whole source => do
    let (_, entry) ← history.entryAt source
    return entry.outcome.envelope
  | .ids source => do
    return .array (← history.listAt .ids source)
  | .records source => do
    return .array (← history.listAt .records source)
  | .cacheKey key => return .string key
  | .malformed text => .error (.malformed text)
  | .literal => .error (.malformed "")

end Directive

end Toolflow
