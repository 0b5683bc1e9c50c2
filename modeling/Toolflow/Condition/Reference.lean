import Toolflow.Json.Printer
import Toolflow.Resolution.Evaluate
import Toolflow.Text.DecimalDigit
import Toolflow.Text.Fields
import Toolflow.Text.WordChar

/-!
References to earlier outcomes inside a condition. A condition is cut into references and other
characters once, from the left; the text put in for a reference is not searched again.
-/

namespace Toolflow.Condition

open Json Text

/-- An outcome and a path into it. -/
structure Reference where
  /-- The position as written; none for the last outcome. -/
  digits : Option (List Char)
  path : List Char
deriving DecidableEq

inductive Piece where
  | char (c : Char)
  | reference (r : Reference)
deriving DecidableEq

/-- `LAST_RESULT`, or `RESULT_` and digits of any script. -/
def readTarget? (cs : List Char) : Option (Option (List Char) × List Char) :=
  match after? "LAST_RESULT" cs with
  | some rest => some (none, rest)
  | none =>
    match after? "RESULT_" cs with
    | some rest =>
      if rest.takeWhile isDecimalDigit = [] then none
      else some (some (rest.takeWhile isDecimalDigit), rest.dropWhile isDecimalDigit)
    | none => none

def isPathChar (c : Char) : Bool :=
  c.isAlphanum || c == '_'

/-- The longest path at the front: segments of path characters, each after a dot. `inside` tells
whether a segment has begun. -/
def spanPath (inside : Bool) : List Char → List Char × List Char
  | [] => ([], [])
  | c :: cs =>
    if (inside && isPathChar c) || (c == '.' && cs.head?.any isPathChar) then
      let r := spanPath true cs
      (c :: r.1, r.2)
    else ([], c :: cs)

def readReference? (cs : List Char) : Option (Reference × List Char) :=
  (readTarget? cs).map fun (digits, rest) =>
    let r := spanPath false rest
    (⟨digits, r.1⟩, r.2)

theorem length_spanPath_le (inside : Bool) (cs : List Char) :
    (spanPath inside cs).2.length ≤ cs.length := by
  induction cs generalizing inside with
  | nil => simp [spanPath]
  | cons c cs ih =>
    unfold spanPath
    split
    · exact Nat.le_succ_of_le (ih true)
    · exact Nat.le_refl _

theorem length_dropWhile_le (p : Char → Bool) (cs : List Char) :
    (cs.dropWhile p).length ≤ cs.length :=
  (List.dropWhile_sublist p).length_le

theorem length_readTarget_lt {cs rest : List Char} {digits : Option (List Char)}
    (h : readTarget? cs = some (digits, rest)) : rest.length < cs.length := by
  unfold readTarget? at h
  split at h
  · next rest' h' =>
    cases h
    rw [after?_eq_some.1 h']
    simp
    omega
  · split at h
    · next rest' h' =>
      split at h
      · cases h
      · cases h
        have := length_dropWhile_le isDecimalDigit rest'
        rw [after?_eq_some.1 h']
        simp
        omega
    · cases h

theorem length_readReference_lt {cs rest : List Char} {r : Reference}
    (h : readReference? cs = some (r, rest)) : rest.length < cs.length := by
  unfold readReference? at h
  obtain ⟨⟨digits, mid⟩, ht, he⟩ := Option.map_eq_some_iff.1 h
  cases he
  exact Nat.lt_of_le_of_lt (length_spanPath_le false mid) (length_readTarget_lt ht)

/-- No reference begins after a word character. -/
def referenceAt? (afterWord : Bool) (cs : List Char) : Option (Reference × List Char) :=
  if afterWord then none else readReference? cs

theorem length_referenceAt_lt {afterWord : Bool} {cs rest : List Char} {r : Reference}
    (h : referenceAt? afterWord cs = some (r, rest)) : rest.length < cs.length := by
  cases afterWord
  · exact length_readReference_lt h
  · cases h

/-- The pieces of a condition; `afterWord` tells whether a word character stands before it. -/
def pieces (afterWord : Bool) (cs : List Char) : List Piece :=
  match cs with
  | [] => []
  | c :: tail =>
    match _h : referenceAt? afterWord (c :: tail) with
    | some (r, rest) => .reference r :: pieces true rest
    | none => .char c :: pieces (isWordChar c) tail
termination_by cs.length
decreasing_by
  · exact length_referenceAt_lt _h
  · simp

variable (history : History) (last : Option Outcome)

def Reference.outcome (r : Reference) : Resolved Outcome :=
  match r.digits with
  | some digits =>
    match readCount? digits with
    | some n => (fun e => e.2.outcome) <$> history.entryAt (.index n)
    | none => .error (.invalidNumber (String.ofList digits))
  | none =>
    match last with
    | some outcome => .ok outcome
    | none => .error .noLastResult

/-- The value meant: the whole envelope without a path, and null where the path leads nowhere. -/
def Reference.value (r : Reference) : Resolved Value := do
  let outcome ← r.outcome history last
  match segments r.path with
  | [] => return outcome.envelope
  | path =>
    match outcome.lookup path with
    | .ok v => return v
    | .error _ => return .null

def Piece.expand : Piece → Resolved (List Char)
  | .char c => .ok [c]
  | .reference r => Value.chars <$> r.value history last

/-- The condition with the JSON text of its value in place of every reference. -/
def substitute (condition : String) : Resolved (List Char) :=
  List.flatten <$> (pieces false condition.toList).mapM (Piece.expand history last)

end Toolflow.Condition
