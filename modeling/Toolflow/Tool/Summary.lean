import Toolflow.Json.Value

/-!
What is returned in place of a large payload that was put behind a cache key.
-/

namespace Toolflow

open Json

structure Summary where
  info : String
  /-- Number of records in the payload. -/
  count : UInt64
  /-- The first records of the payload. -/
  snippet : Value

structure Deferral where
  cached : Bool
  cacheKey : String
  summary : Summary

def Deferral.of (cacheKey : String) (summary : Summary) : Deferral :=
  ⟨true, cacheKey, summary⟩

end Toolflow
