import Toolflow.Engine.Session
import Toolflow.Tool.Summary
import Toolflow.Wire.Outcome

/-!
Calling a tool by name. Cache keys among its arguments give way to what is kept under them, and a
large result may be kept under a fresh key, beside the data or in place of it. A call always has an
outcome: errors become failed ones.
-/

namespace Toolflow

open Json

/-- Set to true by a caller who wants a cache key in place of a large result. -/
def deferArgument : String :=
  "returnCacheKey"

def asksToDefer (args : Members) : Bool :=
  (Members.get? args deferArgument).any Value.isTrue

def Session.record (s : Session) (call : Call) : Session :=
  { s with calls := s.calls ++ [call] }

namespace Engine

variable (e : Engine)

/-- An argument that is a cache key is used up, whether or not anything is kept under it. -/
def materializeArgument (shape : Shape) (v : Value) (s : Session) : Value × Session :=
  match v with
  | .string text =>
    if e.isCacheKey text then
      let r := e.take text s
      (r.1.elim shape.fallback fun item => shape.unwrap item.data, r.2)
    else (.string text, s)
  | v => (v, s)

/-- Arguments are visited in order; only they are, and not what is inside them. -/
def materialize (tool : Tool) : Members → Session → Members × Session
  | [], s => ([], s)
  | (argument, v) :: rest, s =>
    let r := e.materializeArgument (tool.shape argument) v s
    let t := materialize tool rest r.2
    ((argument, r.1) :: t.1, t.2)

def summary (producer : ToolName) (data : Value) : Summary :=
  let count := (Payload.recordCount? data).getD 1
  { info := s!"{count} records from " ++ producer.text ++
              " cached; pass the cacheKey as an argument to use them"
    count := UInt64.ofNat count
    snippet := (Payload.records? data).elim .null fun records =>
      .array (records.take e.config.snippetLength.toNat) }

/-- What becomes of a reply: large data of a success is kept when that was asked for. -/
def settle (tool : Tool) (defer preserve : Bool) (reply : Except EngineError Outcome)
    (s : Session) :
    Outcome × Session :=
  match reply with
  | .error error => (.failure error.message, s)
  | .ok outcome =>
    match outcome.data with
    | none => (outcome, s)
    | some data =>
      if outcome.success && tool.isLarge data e.config.largeThreshold.toNat then
        let r := e.keep tool.name data s
        if defer then (.ok (Wire.encodeDeferral (.of r.1 (e.summary tool.name data))), r.2)
        else if preserve then (outcome.withCacheKey r.1, r.2)
        else (outcome, s)
      else (outcome, s)

/-- Calls a registered tool. -/
def invoke (tool : Tool) (args : Members) (preserve : Bool) (s : Session) : Outcome × Session :=
  let r := e.materialize tool (Members.erase args deferArgument) s
  e.settle tool (asksToDefer args) preserve (tool.respond r.2.calls r.1)
    (r.2.record ⟨tool.name, r.1⟩)

/-- Calls the tool of a name, if there is one. With `preserve`, large data is kept under a fresh key
as well. -/
def dispatch (name : String) (args : Members) (preserve : Bool) (s : Session) : Outcome × Session :=
  match (ToolName.ofText? name).bind e.registry.get? with
  | some tool => e.invoke tool args preserve s
  | none => (.failure (EngineError.unknownTool name).message, s)

end Engine

end Toolflow
