import Toolflow.Engine.Run
import Toolflow.Proofs.Engine.Dispatch

/-!
The states that a run passes through. A step is taken in one of three ways (`takeStep_taken`), a run
reaches a state after each of its steps (`Reaches`), and it ends when all of them are taken or when
one fails (`run_ends`).
-/

namespace Toolflow

open Json

/-- The outcome of the last entry whose tool was called. -/
def History.lastOutcome? (history : History) : Option Outcome :=
  (history.filter fun entry => !entry.skipped).getLast?.map Entry.outcome

namespace History

variable (history : History) (name : ToolName) (args : Members)

@[simp]
theorem lastOutcome?_append_passedOver (reason : String) :
    lastOutcome? (history ++ [.passedOver name args reason]) = lastOutcome? history := by
  simp [lastOutcome?, Entry.passedOver]

@[simp]
theorem lastOutcome?_append_executed (o : Outcome) :
    lastOutcome? (history ++ [.executed name args o]) = some o := by
  simp [lastOutcome?, Entry.executed]

end History

/-- The step has a condition, and it does not hold after a history. -/
def Step.Barred (step : Step) (history : History) : Prop :=
  ∃ c, step.condition = some c ∧ Condition.evaluate history history.lastOutcome? c = false

theorem passesOver_eq_true_iff {p : Progress} (hl : p.last = p.history.lastOutcome?) (step : Step) :
    p.passesOver step = true ↔ step.Barred p.history := by
  simp [Progress.passesOver, Step.Barred, Option.any_eq_true, hl]

theorem not_barred {p : Progress} {step : Step} (hl : p.last = p.history.lastOutcome?)
    (h : p.passesOver step = false) : ¬ step.Barred p.history := by
  rw [← passesOver_eq_true_iff hl, h]
  decide

theorem StepFailure.of?_eq_none_iff (rule : Option Rule) (o : Outcome) :
    StepFailure.of? rule o = none ↔ o.success = true ∧ ∀ r, rule = some r → r.accepts o = true := by
  cases rule <;> cases hs : o.success <;> simp [StepFailure.of?, Rule.accepts, hs]

namespace Engine

variable (e : Engine)

def Accepts (batch : Batch) : Prop :=
  e.batchError? batch = none

/-- The arguments of a step after a history, with directives resolved. -/
def argsFor (history : History) (step : Step) : Members :=
  (Resolution.resolveMembers e.config.keyPrefix history step.args).1

/-- Number of directives in a step that give way to an empty array after a history. -/
def warningsFor (history : History) (step : Step) : Nat :=
  (Resolution.resolveMembers e.config.keyPrefix history step.args).2.length

def noted (p : Progress) (step : Step) (o : Outcome) : Progress :=
  { p with keys := p.keys ++ o.cacheKey.toList,
           warnings := p.warnings + e.warningsFor p.history step }

inductive Taken (preserve : Bool) (step : Step) (p : Progress) (s : Session) :
    Option StepFailure → Progress → Session → Prop where
  | passedOver (h : p.passesOver step = true) :
      Taken preserve step p s none
        { p with history := p.history ++ [.passedOver step.name step.args step.skipReason] } s
  | executed {o : Outcome} {s' : Session} (h : p.passesOver step = false)
      (hd : e.dispatch step.name.text (e.argsFor p.history step) preserve s = (o, s'))
      (ho : StepFailure.of? step.rule o = none) :
      Taken preserve step p s none
        { e.noted p step o with
          history := p.history ++ [.executed step.name (e.argsFor p.history step) o],
          last := some o } s'
  | failed {o : Outcome} {s' : Session} {failure : StepFailure} (h : p.passesOver step = false)
      (hd : e.dispatch step.name.text (e.argsFor p.history step) preserve s = (o, s'))
      (ho : StepFailure.of? step.rule o = some failure) :
      Taken preserve step p s (some failure) (e.noted p step o) s'

theorem takeStep_taken {preserve : Bool} {step : Step} {p p' : Progress} {s s' : Session}
    {failure? : Option StepFailure} (h : e.takeStep preserve step p s = (failure?, p', s')) :
    e.Taken preserve step p s failure? p' s' := by
  unfold takeStep at h
  cases hp : p.passesOver step with
  | true =>
    rw [if_pos hp] at h
    cases h
    exact .passedOver hp
  | false =>
    rw [if_neg (by simp [hp])] at h
    cases ho : StepFailure.of? step.rule
      (e.dispatch step.name.text (e.argsFor p.history step) preserve s).1 with
    | none =>
      simp only [argsFor] at ho
      simp only [ho] at h
      cases h
      exact .executed hp rfl ho
    | some failure =>
      simp only [argsFor] at ho
      simp only [ho] at h
      cases h
      exact .failed hp rfl ho

/-- The state of a run when it has taken the first `n` of its steps and none has failed. -/
inductive Reaches (steps : List Step) (s₀ : Session) : Nat → Progress → Session → Prop where
  | start : Reaches steps s₀ 0 {} s₀
  | next {n : Nat} {p p' : Progress} {s s' : Session} {step : Step} :
      Reaches steps s₀ n p s → steps[n]? = some step →
      e.takeStep (n + 1 < steps.length) step p s = (none, p', s') → Reaches steps s₀ (n + 1) p' s'

/-- The run of a batch calls the tool of the step at position `i` with arguments `args`, in the
session `s`. -/
def Dispatches (batch : Batch) (s₀ : Session) (i : Nat) (step : Step) (args : Members)
    (s : Session) : Prop :=
  e.Accepts batch ∧ batch.steps[i]? = some step ∧
    ∃ p, e.Reaches batch.steps s₀ i p s ∧ ¬ step.Barred p.history ∧ args = e.argsFor p.history step

variable {e} {steps : List Step} {s₀ s : Session} {n : Nat} {p : Progress}

namespace Reaches

theorem le_length (h : e.Reaches steps s₀ n p s) : n ≤ steps.length := by
  cases h with
  | start => exact Nat.zero_le _
  | next _ hs _ => exact (List.getElem?_eq_some_iff.mp hs).1

theorem length_history (h : e.Reaches steps s₀ n p s) : p.history.length = n := by
  induction h with
  | start => rfl
  | next _ _ ht ih =>
    cases e.takeStep_taken ht with
    | passedOver => simp [ih]
    | executed => simp [ih]

theorem last_eq (h : e.Reaches steps s₀ n p s) : p.last = p.history.lastOutcome? := by
  induction h with
  | start => rfl
  | next _ _ ht ih =>
    cases e.takeStep_taken ht with
    | passedOver => rw [History.lastOutcome?_append_passedOver, ih]
    | executed => rw [History.lastOutcome?_append_executed]

theorem of_le {m : Nat} (h : e.Reaches steps s₀ m p s) (hn : n ≤ m) :
    ∃ q t, e.Reaches steps s₀ n q t := by
  induction h with
  | start =>
    obtain rfl := Nat.le_zero.mp hn
    exact ⟨_, _, .start⟩
  | next h hs ht ih =>
    rcases Nat.le_succ_iff.mp hn with hn | rfl
    · exact ih hn
    · exact ⟨_, _, h.next hs ht⟩

theorem unique {q : Progress} {t : Session} (h : e.Reaches steps s₀ n p s)
    (h' : e.Reaches steps s₀ n q t) :
    p = q ∧ s = t := by
  induction h generalizing q t with
  | start =>
    cases h'
    exact ⟨rfl, rfl⟩
  | next _ hs ht ih =>
    cases h' with
    | next h' hs' ht' =>
      obtain ⟨rfl, rfl⟩ := ih h'
      obtain rfl := Option.some.inj (hs.symm.trans hs')
      cases ht.symm.trans ht'
      exact ⟨rfl, rfl⟩

end Reaches

/-- The steps from position `n` on are the one there and those after it; it is the last if there are
none. -/
theorem takeSteps_drop {step : Step} (hs : steps[n]? = some step) (p : Progress) (s : Session) :
    e.takeSteps (n + 1) (steps.drop n) p s =
      match e.takeStep (n + 1 < steps.length) step p s with
      | (some failure, p, s) => (some (failure.error ⟨p.history, step.name.text, n + 1⟩), p, s)
      | (none, p, s) => e.takeSteps (n + 2) (steps.drop (n + 1)) p s := by
  obtain ⟨hn, rfl⟩ := List.getElem?_eq_some_iff.mp hs
  have hp : (!(steps.drop (n + 1)).isEmpty) = decide (n + 1 < steps.length) := by
    rw [Bool.eq_iff_iff]
    simp
  rw [List.drop_eq_getElem_cons hn, ← hp]
  rfl

theorem takeSteps_cases (hr : e.Reaches steps s₀ n p s) (rest : List Step)
    (hd : steps.drop n = rest) :
    (∃ p' s', e.takeSteps (n + 1) rest p s = (none, p', s') ∧
      e.Reaches steps s₀ steps.length p' s') ∨
    ∃ k step q t failure p' s', e.Reaches steps s₀ k q t ∧ steps[k]? = some step ∧
      e.takeStep (k + 1 < steps.length) step q t = (some failure, p', s') ∧
      e.takeSteps (n + 1) rest p s =
        (some (failure.error ⟨p'.history, step.name.text, k + 1⟩), p', s') := by
  -- `rest` is what remains of the batch after `n` steps, so the position moves on as the list gets
  -- shorter.
  induction rest generalizing n p s with
  | nil =>
    have hn : n = steps.length := Nat.le_antisymm hr.le_length (List.drop_eq_nil_iff.mp hd)
    subst hn
    exact .inl ⟨p, s, rfl, hr⟩
  | cons step rest ih =>
    have hs : steps[n]? = some step := by rw [← List.head?_drop, hd, List.head?_cons]
    have hd' : steps.drop (n + 1) = rest := by rw [← List.tail_drop, hd, List.tail_cons]
    rw [← hd, takeSteps_drop hs, hd']
    rcases ht : e.takeStep (n + 1 < steps.length) step p s with ⟨failure?, p', s'⟩
    cases failure? with
    | none => exact ih (hr.next hs ht) hd'
    | some failure => exact .inr ⟨n, step, p, s, failure, p', s', hr, hs, ht, rfl⟩

theorem finish_quiet (p : Progress) (s : Session) : s.Quiet (e.finish p s) := by
  unfold finish
  split
  · exact (e.deleteAll_quiet p.keys s).trans (e.purge_quiet _)
  · exact e.purge_quiet s

variable (e) in
/-- How a run of an accepted batch can end. -/
inductive Ends (batch : Batch) (s₀ : Session) : Except BatchError Report → Session → Prop where
  | completed {p : Progress} {s : Session} (hr : e.Reaches batch.steps s₀ batch.steps.length p s) :
      Ends batch s₀ (.ok (p.report batch)) (e.finish p s)
  | stopped {k : Nat} {step : Step} {q p : Progress} {t s : Session} {failure : StepFailure}
      (hr : e.Reaches batch.steps s₀ k q t) (hs : batch.steps[k]? = some step)
      (ht : e.takeStep (k + 1 < batch.steps.length) step q t = (some failure, p, s)) :
      Ends batch s₀ (.error (failure.error ⟨p.history, step.name.text, k + 1⟩)) (e.finish p s)

theorem run_ends {batch : Batch} {result : Except BatchError Report} (ha : e.Accepts batch)
    (h : e.run batch s₀ = (result, s)) : e.Ends batch s₀ result s := by
  have hb : e.batchError? batch = none := ha
  obtain ⟨p, t, ht, hr⟩ | ⟨k, step, q, t, failure, p, u, hr, hs, ht, hu⟩ :=
    takeSteps_cases (.start : e.Reaches batch.steps s₀ 0 {} s₀) batch.steps rfl
  · simp only [run, hb, ht] at h
    cases h
    exact .completed hr
  · simp only [run, hb, hu] at h
    cases h
    exact .stopped hr hs ht

theorem run_refused {batch : Batch} {error : BatchError} (h : e.batchError? batch = some error) :
    e.run batch s₀ = (.error error, s₀) := by
  simp only [run, h]

theorem accepts_of_ok {batch : Batch} {report : Report} (h : e.run batch s₀ = (.ok report, s)) :
    e.Accepts batch := by
  cases hb : e.batchError? batch with
  | none => exact hb
  | some error =>
    rw [run_refused hb] at h
    cases h

theorem invalidStep?_eq_none_iff (position : Nat) :
    e.invalidStep? position steps = none ↔ ∀ step ∈ steps, e.stepError? step = none := by
  induction steps generalizing position with
  | nil => simp [invalidStep?]
  | cons step rest ih => cases h : e.stepError? step <;> simp [invalidStep?, h, ih]

theorem stepError?_of_accepts {batch : Batch} (ha : e.Accepts batch) {step : Step}
    (hs : step ∈ batch.steps) :
    e.stepError? step = none := by
  unfold Accepts batchError? at ha
  split at ha
  · cases ha
  · split at ha
    · cases ha
    · exact (invalidStep?_eq_none_iff 1).mp ha step hs

theorem registered_of_accepts {batch : Batch} (ha : e.Accepts batch) {step : Step}
    (hs : step ∈ batch.steps) :
    ∃ tool, e.registry.get? step.name = some tool := by
  have hn := stepError?_of_accepts ha hs
  cases hg : e.registry.get? step.name with
  | some tool => exact ⟨tool, rfl⟩
  | none => simp [stepError?, Registry.contains, hg] at hn

end Engine

end Toolflow
