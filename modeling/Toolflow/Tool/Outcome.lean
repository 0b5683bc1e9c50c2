import Toolflow.Json.Value

/-!
What a tool call comes to: the envelope of success, data and error.
-/

namespace Toolflow

open Json

structure Outcome where
  success : Bool
  data : Option Value := none
  error : Option String := none
  /-- Where a copy of the data is kept, if it is. -/
  cacheKey : Option String := none

namespace Outcome

def ok (data : Value) : Outcome where
  success := true
  data := some data

def failure (error : String) : Outcome where
  success := false
  error := some error

/-- Stands in for the result of a step that was passed over. -/
def skipped (reason : String) : Outcome :=
  ok (.object [("reason", .string reason), ("skipped", .bool true)])

def withCacheKey (o : Outcome) (key : String) : Outcome :=
  { o with cacheKey := some key }

def dataOrNull (o : Outcome) : Value :=
  o.data.getD .null

/-- The whole outcome as an object; absent parts are left out. -/
def envelope (o : Outcome) : Value :=
  let members := [("success", .bool o.success)]
  let members := o.data.elim members fun data => Members.insert "data" data members
  let members := o.error.elim members fun error => Members.insert "error" (.string error) members
  let members := o.cacheKey.elim members fun key => Members.insert "cacheKey" (.string key) members
  .object members

end Outcome

end Toolflow
