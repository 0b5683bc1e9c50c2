import Toolflow.Batch.Report
import Toolflow.Wire.Batch

/-!
Wire forms of reports, and the outcomes that hold them.
-/

namespace Toolflow

open Json

namespace Wire

def encodeReport (r : Report) : Value :=
  .object (member? "description" (r.description.map .string) ++
    [("finalResult", r.final.elim .null encodeOutcome),
     ("functions", .array (r.entries.map encodeEntry)),
     ("resolutionWarnings", .ofCount r.warnings),
     ("skippedFunctions", .ofCount r.passedOver),
     ("totalFunctions", .ofCount r.total)])

def encodeStop (s : Stop) : Value :=
  .object [
    ("completedFunctions", .array (s.completed.map encodeEntry)),
    ("failedAt", .ofCount s.position),
    ("failedFunction", .string s.name)]

end Wire

def Report.outcome (r : Report) : Outcome :=
  .ok (Wire.encodeReport r)

/-- A failure whose data, if any, tells how far the run got. -/
def BatchError.outcome (e : BatchError) : Outcome :=
  { Outcome.failure e.message with data := e.stop?.map Wire.encodeStop }

end Toolflow
