/-!
Configuration of an engine: how long results are kept, how their keys begin, and how large batches
and results may be.
-/

namespace Toolflow

/-- A length of time; the nanoseconds are less than a second. -/
structure Lifespan where
  seconds : UInt64
  nanos : Nat
  nanos_lt : nanos < 1000000000
deriving DecidableEq

namespace Lifespan

def ofSeconds (seconds : UInt64) : Lifespan :=
  ⟨seconds, 0, by decide⟩

def ofNanos (n : Nat) : Lifespan :=
  ⟨UInt64.ofNat (n / 1000000000), n % 1000000000, Nat.mod_lt _ (by decide)⟩

def toNanos (d : Lifespan) : Nat :=
  d.seconds.toNat * 1000000000 + d.nanos

end Lifespan

structure Config where
  /-- How long a kept result can be retrieved. -/
  lifespan : Lifespan := .ofSeconds 1800
  /-- How generated keys begin. -/
  keyPrefix : String := "fc_"
  /-- A result with more records than this is large. -/
  largeThreshold : UInt64 := 20
  /-- Number of records shown in a summary. -/
  snippetLength : UInt64 := 3
  maxSteps : UInt64 := 10
  /-- Whether the keys that a run created are released at its end. -/
  cleanup : Bool := true
deriving DecidableEq

inductive ConfigFault where
  | zeroMaxSteps
  | zeroLifespan
  | emptyKeyPrefix
deriving DecidableEq

def ConfigFault.message : ConfigFault → String
  | .zeroMaxSteps => "max_steps must be greater than 0"
  | .zeroLifespan => "cache_ttl must be greater than 0"
  | .emptyKeyPrefix => "cache_key_prefix must not be empty"

/-- The first fault of a configuration. -/
def Config.fault? (c : Config) : Option ConfigFault :=
  if c.maxSteps = 0 then some .zeroMaxSteps
  else if c.lifespan.toNanos = 0 then some .zeroLifespan
  else if c.keyPrefix = "" then some .emptyKeyPrefix
  else none

/-- Values that replace defaults. -/
structure Settings where
  lifespan : Option Lifespan := none
  keyPrefix : Option String := none
  largeThreshold : Option UInt64 := none
  snippetLength : Option UInt64 := none
  maxSteps : Option UInt64 := none
  cleanup : Option Bool := none

def Settings.apply (s : Settings) (c : Config) : Config where
  lifespan := s.lifespan.getD c.lifespan
  keyPrefix := s.keyPrefix.getD c.keyPrefix
  largeThreshold := s.largeThreshold.getD c.largeThreshold
  snippetLength := s.snippetLength.getD c.snippetLength
  maxSteps := s.maxSteps.getD c.maxSteps
  cleanup := s.cleanup.getD c.cleanup

/-- The configuration with these settings and defaults elsewhere, if it has no fault. -/
def Settings.build (s : Settings) : Except ConfigFault Config :=
  match (s.apply {}).fault? with
  | some fault => .error fault
  | none => .ok (s.apply {})

end Toolflow
