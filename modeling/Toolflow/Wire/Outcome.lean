import Toolflow.Tool.Outcome
import Toolflow.Tool.Summary
import Toolflow.Wire.Decoder

/-!
Wire forms of tool names, outcomes and summaries.
-/

namespace Toolflow.Wire

open Json

def toolNameOf (text : String) : Except Fault ToolName :=
  match ToolName.ofText? text with
  | some name => .ok name
  | none => .error (.unknownTool text)

/-- A string, or an object whose one key is the name and whose value is null. -/
def toolName : Decoder ToolName
  | .string s => toolNameOf s
  | .object [(key, v)] => do
    let name ← toolNameOf key
    match v with
    | .null => .ok name
    | v => .error (.invalidType v .unit)
  | .object members => .error (.invalidValue (.object members) .singleKeyMap)
  | v => .error (.invalidType v .stringOrMap)

def encodeToolName (name : ToolName) : Value :=
  .string name.text

def outcome : Decoder Outcome :=
  record "ToolResult"
    (fun members => do
      let cacheKey ← optional string members "cacheKey"
      let data ← optional anything members "data"
      let error ← optional string members "error"
      let success ← field? boolean members "success"
      let success ← require "success" success
      return { success, data, error, cacheKey })
    (do
      let success ← element boolean 0 (.recordOfSize "ToolResult" 4)
      let data ← optionalElement anything
      let error ← optionalElement string
      let cacheKey ← optionalElement string
      return { success, data, error, cacheKey })

def encodeOutcome (o : Outcome) : Value :=
  .object (member? "cacheKey" (o.cacheKey.map .string) ++ member? "data" o.data ++
    member? "error" (o.error.map .string) ++ [("success", .bool o.success)])

def summary : Decoder Summary :=
  record "SummaryInfo"
    (fun members => do
      let count ← field? count members "count"
      let info ← field? string members "info"
      let snippet ← field? anything members "snippet"
      let info ← require "info" info
      let count ← require "count" count
      let snippet ← require "snippet" snippet
      return { info, count, snippet })
    (do
      let info ← element string 0 (.recordOfSize "SummaryInfo" 3)
      let count ← element count 1 (.recordOfSize "SummaryInfo" 3)
      let snippet ← element anything 2 (.recordOfSize "SummaryInfo" 3)
      return { info, count, snippet })

def encodeSummary (s : Summary) : Value :=
  .object [("count", .number (.ofUInt64 s.count)), ("info", .string s.info), ("snippet", s.snippet)]

def deferral : Decoder Deferral :=
  record "CachedSummary"
    (fun members => do
      let cacheKey ← field? string members "cacheKey"
      let cached ← field? boolean members "cached"
      let summary ← field? summary members "summary"
      let cached ← require "cached" cached
      let cacheKey ← require "cacheKey" cacheKey
      let summary ← require "summary" summary
      return { cached, cacheKey, summary })
    (do
      let cached ← element boolean 0 (.recordOfSize "CachedSummary" 3)
      let cacheKey ← element string 1 (.recordOfSize "CachedSummary" 3)
      let summary ← element summary 2 (.recordOfSize "CachedSummary" 3)
      return { cached, cacheKey, summary })

def encodeDeferral (d : Deferral) : Value :=
  .object [("cacheKey", .string d.cacheKey), ("cached", .bool d.cached),
    ("summary", encodeSummary d.summary)]

end Toolflow.Wire
