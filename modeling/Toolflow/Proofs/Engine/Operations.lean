import Toolflow.Engine.Submission
import Toolflow.Proofs.Engine.Session

/-!
Sequences of operations on one engine and its store. Calls, runs and uses of the store come down to
a few moves, so what these keep is kept by every sequence of operations. Main statement:
`Kept.performAll`.
-/

namespace Toolflow

open Json

inductive Operation where
  | call (name : String) (args : Members) (preserve : Bool)
  | run (batch : Batch)
  | submit (submission : Value)
  | store (producer : ToolName) (data : Value)
  | peek (key : String)
  | take (key : String)
  | delete (key : String)
  | clear
  | purge

namespace Engine

variable (e : Engine)

def perform (s : Session) : Operation → Session
  | .call name args preserve => (e.dispatch name args preserve s).2
  | .run batch => (e.run batch s).2
  | .submit submission => (e.submit submission s).2
  | .store producer data => (e.keep producer data s).2
  | .peek key => (e.peek key s).2
  | .take key => (e.take key s).2
  | .delete key => (e.delete key s).2
  | .clear => s.clear
  | .purge => (e.purge s).2

def performAll (operations : List Operation) (s : Session) : Session :=
  operations.foldl e.perform s

/-- The moves that operations are made of keep a property of sessions. -/
structure Kept (P : Session → Prop) : Prop where
  record : ∀ s call, P s → P (s.record call)
  keep : ∀ s producer data, P s → P (e.keep producer data s).2
  peek : ∀ s key, P s → P (e.peek key s).2
  take : ∀ s key, P s → P (e.take key s).2
  delete : ∀ s key, P s → P (e.delete key s).2
  purge : ∀ s, P s → P (e.purge s).2
  clear : ∀ s, P s → P s.clear

namespace Kept

variable {e} {P : Session → Prop} {s : Session}

theorem materializeArgument (hk : e.Kept P) (shape : Shape) (v : Value) (h : P s) :
    P (e.materializeArgument shape v s).2 := by
  unfold Engine.materializeArgument
  split
  · split
    · exact hk.take s _ h
    · exact h
  · exact h

theorem materialize (hk : e.Kept P) (tool : Tool) (args : Members) (h : P s) :
    P (e.materialize tool args s).2 := by
  induction args generalizing s with
  | nil => exact h
  | cons m rest ih =>
    obtain ⟨argument, v⟩ := m
    have hm : P (e.materializeArgument (tool.shape argument) v s).2 := hk.materializeArgument _ v h
    exact ih hm

theorem settle (hk : e.Kept P) (tool : Tool) (defer preserve : Bool)
    (reply : Except EngineError Outcome) (h : P s) :
    P (e.settle tool defer preserve reply s).2 := by
  unfold Engine.settle
  split
  · exact h
  · split
    · exact h
    · next data _ =>
      have hd : P (e.keep tool.name data s).2 := hk.keep s tool.name data h
      split
      · cases defer <;> cases preserve
        · exact h
        · exact hd
        · exact hd
        · exact hd
      · exact h

theorem dispatch (hk : e.Kept P) (name : String) (args : Members) (preserve : Bool) (h : P s) :
    P (e.dispatch name args preserve s).2 := by
  unfold Engine.dispatch
  split
  · next tool _ =>
    have hm : P (e.materialize tool (Members.erase args deferArgument) s).2 :=
      hk.materialize tool _ h
    exact hk.settle tool _ preserve _ (hk.record _ _ hm)
  · exact h

theorem takeStep (hk : e.Kept P) (preserve : Bool) (step : Step) (p : Progress) (h : P s) :
    P (e.takeStep preserve step p s).2.2 := by
  unfold Engine.takeStep
  split
  · exact h
  · have hd := hk.dispatch step.name.text
      (Resolution.resolveMembers e.config.keyPrefix p.history step.args).1 preserve h
    simp only
    split
    · exact hd
    · exact hd

theorem takeSteps (hk : e.Kept P) (position : Nat) (steps : List Step) (p : Progress) (h : P s) :
    P (e.takeSteps position steps p s).2.2 := by
  induction steps generalizing position p s with
  | nil => exact h
  | cons step rest ih =>
    have ht := hk.takeStep (!rest.isEmpty) step p h
    rw [Engine.takeSteps]
    rcases hs : e.takeStep (!rest.isEmpty) step p s with ⟨failure?, p', s'⟩
    rw [hs] at ht
    cases failure? with
    | none => exact ih (position + 1) p' ht
    | some failure => exact ht

theorem deleteAll (hk : e.Kept P) (keys : List String) (h : P s) : P (e.deleteAll keys s) := by
  induction keys generalizing s with
  | nil => exact h
  | cons key rest ih => exact ih (hk.delete s key h)

theorem finish (hk : e.Kept P) (p : Progress) (h : P s) : P (e.finish p s) := by
  unfold Engine.finish
  split
  · exact hk.purge _ (hk.deleteAll p.keys h)
  · exact hk.purge s h

theorem run (hk : e.Kept P) (batch : Batch) (h : P s) : P (e.run batch s).2 := by
  unfold Engine.run
  split
  · exact h
  · exact hk.finish _ (hk.takeSteps 1 batch.steps {} h)

theorem submit (hk : e.Kept P) (submission : Value) (h : P s) : P (e.submit submission s).2 := by
  unfold Engine.submit
  split
  · exact h
  · next batch _ =>
    have hr := hk.run batch h
    rcases he : e.run batch s with ⟨error | report, s'⟩
    · rw [he] at hr
      exact hr
    · rw [he] at hr
      exact hr

theorem perform (hk : e.Kept P) (operation : Operation) (h : P s) : P (e.perform s operation) := by
  cases operation with
  | call name args preserve => exact hk.dispatch name args preserve h
  | run batch => exact hk.run batch h
  | submit submission => exact hk.submit submission h
  | store producer data => exact hk.keep s producer data h
  | peek key => exact hk.peek s key h
  | take key => exact hk.take s key h
  | delete key => exact hk.delete s key h
  | clear => exact hk.clear s h
  | purge => exact hk.purge s h

theorem performAll (hk : e.Kept P) (operations : List Operation) (h : P s) :
    P (e.performAll operations s) := by
  induction operations generalizing s with
  | nil => exact h
  | cons operation rest ih => exact ih (hk.perform operation h)

end Kept

end Engine

end Toolflow
