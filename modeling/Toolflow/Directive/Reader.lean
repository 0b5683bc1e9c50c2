import Toolflow.Cache.Key
import Toolflow.Directive.Basic

/-!
Reading directives. Each production of the grammar is tried by its lead, in order; text that has the
lead of a production and does not fit it is malformed.
-/

namespace Toolflow

open Text Record

def Source.read? (cs : List Char) : Option Source :=
  if String.ofList cs = "LAST" then some .last else (readCount? cs).map .index

namespace Directive

/-- The source after an underscore; nothing means the last entry. -/
def readOptionalSource? : List Char → Option Source
  | [] => some .last
  | '_' :: cs => Source.read? cs
  | _ => none

/-- A path has at least one segment. -/
def ofPath? (source : Source) (path : List Char) : Option Directive :=
  if segments path = [] then none else some (.field source (segments path))

/-- A whole result, or a field of it if a path follows. -/
def ofOptionalPath? (source : Source) (path : List Char) : Option Directive :=
  if path = [] then some (.whole source) else ofPath? source path

/-- The productions that begin with `EXTRACT_`. -/
def readExtract? (cs : List Char) : Option Directive :=
  match after? "TRADE_IDS" cs with
  | some rest => (readOptionalSource? rest).map .ids
  | none =>
    match after? "TRADES" cs with
    | some rest => (readOptionalSource? rest).map .records
    | none => do
      let (source, path) ← cut '.' cs
      ofPath? (← Source.read? source) path

def readIndices? (cs : List Char) : Option (List Nat) :=
  (fields '_' cs).mapM readCount?

/-- A path and two positions after it; the path may be missing. -/
def readSlice? (cs : List Char) : Option Directive := do
  let (source, rest) ← cut '.' cs
  let source ← Source.read? source
  match (fields '.' rest).reverse with
  | stop :: start :: path =>
    return .slice source ((path.reverse.filter (· ≠ [])).map String.ofList) (← readCount? start)
      (← readCount? stop)
  | _ => none

def comparisonLeads : List (String × Comparison) :=
  [(">=", .ge), ("<=", .le), (">", .gt), ("<", .lt)]

def lowered (cs : List Char) : String :=
  String.ofList (cs.map Char.toLower)

def readPredicate? (cs : List Char) : Option Predicate :=
  match comparisonLeads.findSome? fun lead => (after? lead.1 cs).map (lead.2, ·) with
  | some (comparison, operand) => (Binary64.read? (trim operand)).map (.compare comparison)
  | none =>
    some (if lowered cs = "win" then .win
      else if lowered cs = "loss" then .loss
      else .equals (String.ofList cs))

def readFilter? (cs : List Char) : Option Directive := do
  let (source, rest) ← cut '.' cs
  let (list, rest) ← cut '.' rest
  let (property, value) ← cut '.' rest
  let source ← Source.read? source
  if list = [] ∨ property = [] ∨ value = [] then none
  else return .filter source (String.ofList list) (String.ofList property) (← readPredicate? value)

def readDirection? (cs : List Char) : Option Direction :=
  if lowered cs = "asc" then some .ascending
  else if lowered cs = "desc" then some .descending
  else none

def readSort? (cs : List Char) : Option Directive := do
  let (source, rest) ← cut '.' cs
  let (list, rest) ← cut '.' rest
  let (property, direction) ← cut '.' rest
  let source ← Source.read? source
  if list = [] ∨ property = [] then none
  else
    return .sort source (String.ofList list) (String.ofList property) (← readDirection? direction)

def readLastResult? : List Char → Option Directive
  | [] => some (.whole .last)
  | '.' :: path => ofOptionalPath? .last path
  | _ => none

def readResult? (cs : List Char) : Option Directive :=
  let (index, path) := (cut '.' cs).getD (cs, [])
  (readCount? index).bind fun n => ofOptionalPath? (.index n) path

/-- A lead and how to go on after it. -/
abbrev Production := String × (List Char → Option Directive)

def setProductions (lead : String) (operation : SetOperation) : List Production :=
  [(lead ++ "TRADE_IDS_", fun cs => (readIndices? cs).map (.idSet operation)),
   (lead ++ "TRADES_", fun cs => (readIndices? cs).map (.recordSet operation))]

def productions : List Production :=
  ("EXTRACT_", readExtract?) ::
    setProductions "MERGE_" .merge ++ setProductions "UNIQUE_" .unique ++
      setProductions "INTERSECT_" .intersect ++
    [("SLICE_", readSlice?), ("FILTER_", readFilter?), ("SORT_", readSort?),
     ("LAST_RESULT", readLastResult?), ("RESULT_", readResult?)]

/-- The directive that a text stands for; `keyPrefix` tells cache keys. -/
def read (keyPrefix text : String) : Directive :=
  match productions.findSome? fun p => (after? p.1 text.toList).map p.2 with
  | some directive? => directive?.getD (.malformed text)
  | none => if Cache.hasKeyShape keyPrefix text then .cacheKey text else .literal

end Directive

end Toolflow
