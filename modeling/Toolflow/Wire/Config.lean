import Toolflow.Config.Basic
import Toolflow.Wire.Decoder

/-!
Wire form of a configuration.
-/

namespace Toolflow.Wire

open Json

/-- Nanoseconds of a second and more carry over. -/
def lifespanOf (seconds nanos : Nat) : Except Fault Lifespan :=
  if seconds + nanos / 1000000000 < UInt64.size then
    .ok (.ofNanos (seconds * 1000000000 + nanos))
  else .error .lifespanOverflow

def lifespanFields : List String :=
  ["secs", "nanos"]

/-- Fields of other names are refused, the first of them before any field after it is read. -/
def readLifespanMember (seen : Option Nat × Option Nat) (m : String × Value) :
    Except Fault (Option Nat × Option Nat) :=
  if m.1 = "secs" then (fun n => (some n, seen.2)) <$> natural .seconds UInt64.size m.2
  else if m.1 = "nanos" then (fun n => (seen.1, some n)) <$> natural .nanoseconds UInt32.size m.2
  else .error (.unknownField m.1 lifespanFields)

def lifespan : Decoder Lifespan :=
  record "Duration"
    (fun members => do
      let (seconds, nanos) ← members.foldlM readLifespanMember (none, none)
      let seconds ← require "secs" seconds
      let nanos ← require "nanos" nanos
      lifespanOf seconds nanos)
    (do
      let seconds ← element (natural .seconds UInt64.size) 0 (.record "Duration")
      let nanos ← element (natural .nanoseconds UInt32.size) 1 (.record "Duration")
      lifespanOf seconds nanos)

def encodeLifespan (d : Lifespan) : Value :=
  .object [("nanos", .ofCount d.nanos), ("secs", .number (.ofUInt64 d.seconds))]

def config : Decoder Config :=
  record "EngineConfig"
    (fun members => do
      let keyPrefix ← field? string members "cache_key_prefix"
      let lifespan ← field? lifespan members "cache_ttl"
      let cleanup ← field? boolean members "cleanup_on_completion"
      let largeThreshold ← field? count members "large_result_threshold"
      let maxSteps ← field? count members "max_steps"
      let snippetLength ← field? count members "snippet_len"
      let lifespan ← require "cache_ttl" lifespan
      let keyPrefix ← require "cache_key_prefix" keyPrefix
      let largeThreshold ← require "large_result_threshold" largeThreshold
      let snippetLength ← require "snippet_len" snippetLength
      let maxSteps ← require "max_steps" maxSteps
      let cleanup ← require "cleanup_on_completion" cleanup
      return { lifespan, keyPrefix, largeThreshold, snippetLength, maxSteps, cleanup })
    (do
      let lifespan ← element lifespan 0 (.recordOfSize "EngineConfig" 6)
      let keyPrefix ← element string 1 (.recordOfSize "EngineConfig" 6)
      let largeThreshold ← element count 2 (.recordOfSize "EngineConfig" 6)
      let snippetLength ← element count 3 (.recordOfSize "EngineConfig" 6)
      let maxSteps ← element count 4 (.recordOfSize "EngineConfig" 6)
      let cleanup ← element boolean 5 (.recordOfSize "EngineConfig" 6)
      return { lifespan, keyPrefix, largeThreshold, snippetLength, maxSteps, cleanup })

def encodeConfig (c : Config) : Value :=
  .object [
    ("cache_key_prefix", .string c.keyPrefix),
    ("cache_ttl", encodeLifespan c.lifespan),
    ("cleanup_on_completion", .bool c.cleanup),
    ("large_result_threshold", .number (.ofUInt64 c.largeThreshold)),
    ("max_steps", .number (.ofUInt64 c.maxSteps)),
    ("snippet_len", .number (.ofUInt64 c.snippetLength))]

end Toolflow.Wire
