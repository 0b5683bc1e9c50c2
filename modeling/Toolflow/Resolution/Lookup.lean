import Toolflow.Payload.Path
import Toolflow.Tool.Outcome

/-!
Paths into the outcome of a step. They start in its data; a path that is not there and begins with a
part of the envelope starts in the envelope.
-/

namespace Toolflow.Outcome

open Json Payload

def envelopeKeys : List String :=
  ["success", "data", "error", "cacheKey"]

def lookup (o : Outcome) (path : List String) : Except PathError Value :=
  match Payload.lookup o.dataOrNull path with
  | .ok v => .ok v
  | .error e =>
    if path.head?.any envelopeKeys.contains then
      match Payload.lookup o.envelope path with
      | .ok v => .ok v
      | .error _ => .error e
    else .error e

end Toolflow.Outcome
