import Toolflow.Tool.Basic

/-!
Tools that answer from a script, for rehearsing a batch.
-/

namespace Toolflow

open Json

inductive Reply where
  | raise (error : EngineError)
  /-- The arguments themselves. -/
  | echo
  /-- One argument, or null. -/
  | pick (argument : String)
  /-- The length of one argument. -/
  | count (argument : String)
  | give (outcome : Outcome)

def Reply.answer (args : Members) : Reply → Except EngineError Outcome
  | .raise error => .error error
  | .echo => .ok (.ok (.object args))
  | .pick argument => .ok (.ok ((Members.get? args argument).getD .null))
  | .count argument =>
    let length := ((Members.get? args argument).bind Value.array?).elim 0 List.length
    .ok (.ok (.object [("count", .ofCount length)]))
  | .give outcome => .ok outcome

structure Script where
  name : ToolName
  description : String := ""
  /-- The reply to each call; the last one also to all calls after it. -/
  replies : List Reply := []
  /-- Shapes of arguments, where the usual ones do not hold. -/
  shapes : List (String × Shape) := []
  /-- Whether all data is large, or none. -/
  large : Option Bool := none

/-- The reply to a call after `n` others; without replies the arguments are echoed. -/
def Script.reply (s : Script) (n : Nat) : Reply :=
  (s.replies[n]?.or s.replies.getLast?).getD .echo

/-- A tool that follows a script from the call after the first `before` calls of all tools. -/
def Script.tool (s : Script) (before : Nat) : Tool where
  name := s.name
  description := s.description
  shape argument := (s.shapes.lookup argument).getD (.ofArgument argument)
  isLarge data threshold := s.large.getD (isLargeByCount data threshold)
  respond calls args := (s.reply ((calls.drop before).countP fun c => c.name = s.name)).answer args

end Toolflow
