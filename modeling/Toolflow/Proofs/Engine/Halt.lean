import Toolflow.Proofs.Engine.Chronicle

/-!
How a run ends that does not complete. It stops at the first step whose outcome is a failure or
breaks a rule; what is reported is the history of the steps before, and no tool is called after.
Main statement: `run_halts`.
-/

namespace Toolflow

open Json

namespace StepFailure

variable {rule : Option Rule} {o : Outcome} {failure : StepFailure}

theorem of?_eq_some (h : of? rule o = some failure) :
    (o.success = false ∧ ∃ message, failure = .tool message) ∨
    (o.success = true ∧ (∃ r, rule = some r ∧ r.accepts o = false) ∧
      ∃ unmet, failure = .validation unmet) := by
  unfold of? at h
  cases hs : o.success with
  | false =>
    rw [if_neg (by simp [hs])] at h
    exact .inl ⟨rfl, _, (Option.some.inj h).symm⟩
  | true =>
    rw [if_pos hs, Option.map_eq_some_iff] at h
    obtain ⟨unmet, hu, rfl⟩ := h
    obtain ⟨r, rfl, hr⟩ := Option.bind_eq_some_iff.mp hu
    exact .inr ⟨rfl, ⟨r, rfl, by simp [Rule.accepts, hr]⟩, unmet, rfl⟩

theorem stop?_error (failure : StepFailure) (stop : Stop) :
    (failure.error stop).stop? = some stop := by
  cases failure <;> rfl

theorem error_toolFailure_iff (h : of? rule o = some failure) (stop : Stop) :
    (∃ message, failure.error stop = .toolFailure message stop) ↔ o.success = false := by
  obtain ⟨hs, message, rfl⟩ | ⟨hs, -, unmet, rfl⟩ := of?_eq_some h
  · simp [error, hs]
  · simp [error, hs]

theorem error_validationFailure_iff (h : of? rule o = some failure) (stop : Stop) :
    (∃ unmet, failure.error stop = .validationFailure unmet stop) ↔
      o.success = true ∧ ∃ r, rule = some r ∧ r.accepts o = false := by
  obtain ⟨hs, message, rfl⟩ | ⟨hs, hr, unmet, rfl⟩ := of?_eq_some h
  · simp [error, hs]
  · simp [error, hs, hr]

end StepFailure

namespace Engine

variable (e : Engine)

/-- A run stopped at a step with an outcome `o`, after sessions that the steps before it went
through. -/
structure Halt (batch : Batch) (s s' : Session) (error : BatchError) (stop : Stop) (step : Step)
    (sessions : Nat → Session) (o : Outcome) : Prop where
  stop_eq : error.stop? = some stop
  position_pos : 1 ≤ stop.position
  position_le : stop.position ≤ batch.steps.length
  step_eq : batch.steps[stop.position - 1]? = some step
  name_eq : stop.name = step.name.text
  length_completed : stop.completed.length = stop.position - 1
  chronicle : e.Chronicle batch.steps s stop.completed sessions
  /-- The history is as it was when the step was taken, so the outcome of the step is not recorded
  in it. -/
  reached : ∃ p, e.Reaches batch.steps s (stop.position - 1) p (sessions (stop.position - 1)) ∧
    p.history = stop.completed
  /-- Taking the step fails and adds nothing to the history. -/
  unrecorded : ∃ p failure p' t,
    e.Reaches batch.steps s (stop.position - 1) p (sessions (stop.position - 1)) ∧
    e.takeStep (stop.position < batch.steps.length) step p (sessions (stop.position - 1)) =
      (some failure, p', t) ∧
    p'.history = stop.completed
  /-- An outcome of a completed step may look like that of the failed one, but it answered an
  earlier call. -/
  earlier : ∀ i < stop.position, (sessions i).calls <+: (sessions (stop.position - 1)).calls
  unlike : o.success = false → ∀ entry ∈ stop.completed, entry.outcome ≠ o
  not_barred : ¬ step.Barred stop.completed
  dispatched : (e.dispatch step.name.text (e.argsFor stop.completed step)
    (stop.position < batch.steps.length) (sessions (stop.position - 1))).1 = o
  /-- The call of the step is the last of the run. -/
  called : ∃ tool, e.registry.get? step.name = some tool ∧
    s'.calls = (sessions (stop.position - 1)).calls ++
      [e.callOf tool (e.argsFor stop.completed step) (sessions (stop.position - 1))]
  tool_iff : (∃ message, error = .toolFailure message stop) ↔ o.success = false
  validation_iff : (∃ unmet, error = .validationFailure unmet stop) ↔
    o.success = true ∧ ∃ rule, step.rule = some rule ∧ rule.accepts o = false

variable {e} {batch : Batch} {s s' : Session} {p p' : Progress} {step : Step} {preserve : Bool}
  {failure : StepFailure}

theorem Taken.fails (h : e.Taken preserve step p s (some failure) p' s')
    (hl : p.last = p.history.lastOutcome?) (hr : ∃ tool, e.registry.get? step.name = some tool) :
    p'.history = p.history ∧ ¬ step.Barred p.history ∧
    (∃ o, e.dispatch step.name.text (e.argsFor p.history step) preserve s = (o, s') ∧
      StepFailure.of? step.rule o = some failure) ∧
    ∃ tool, e.registry.get? step.name = some tool ∧
      s'.calls = s.calls ++ [e.callOf tool (e.argsFor p.history step) s] := by
  obtain ⟨tool, ht⟩ := hr
  cases h with
  | failed h hd ho =>
    have hc := e.calls_dispatch (e.argsFor p.history step) preserve s ht
    rw [hd] at hc
    exact ⟨rfl, not_barred hl h, ⟨_, hd, ho⟩, tool, ht, hc⟩

/-- A run of an accepted batch that does not complete stops at one step, which is at fault. -/
theorem run_halts (e : Engine) (batch : Batch) (s s' : Session) (error : BatchError)
    (ha : e.Accepts batch) (h : e.run batch s = (.error error, s')) :
    ∃ stop step sessions o, e.Halt batch s s' error stop step sessions o := by
  cases run_ends ha h with
  | @stopped k step q p t u failure hr hs ht =>
    obtain ⟨sessions, hc, rfl⟩ := hr.chronicle fun step hs => registered_of_accepts ha hs
    obtain rfl := hr.length_history
    have hlt : q.history.length < batch.steps.length := (List.getElem?_eq_some_iff.mp hs).1
    obtain ⟨hp, hb, ⟨o, hd, ho⟩, tool, htool, hcalls⟩ :=
      (e.takeStep_taken ht).fails hr.last_eq (registered_of_accepts ha (List.mem_of_getElem? hs))
    have hq : u.Quiet (e.finish p u) := finish_quiet p u
    refine ⟨⟨q.history, step.name.text, q.history.length + 1⟩, step, sessions, o, ?_⟩
    rw [hp]
    exact {
      stop_eq := StepFailure.stop?_error ..
      position_pos := Nat.le_add_left ..
      position_le := hlt
      step_eq := hs
      name_eq := rfl
      length_completed := rfl
      chronicle := hc
      reached := ⟨q, hr, rfl⟩
      unrecorded := ⟨q, failure, p, u, hr, ht, hp⟩
      earlier := fun i hi =>
        hc.calls_prefix (Nat.le_of_lt hlt) (Nat.le_of_lt_succ hi) (Nat.le_refl _)
      unlike := fun hfalse entry hm heq => by
        have htrue := hc.success (Nat.le_of_lt hlt) hm
        rw [heq, hfalse] at htrue
        cases htrue
      not_barred := hb
      dispatched := congrArg Prod.fst hd
      called := ⟨tool, htool, hq.calls.trans hcalls⟩
      tool_iff := StepFailure.error_toolFailure_iff ho _
      validation_iff := StepFailure.error_validationFailure_iff ho _ }

/-- A search, a step that is passed over, a search with too few results, and a step that is never
taken. -/
def rehearsedHalt : Batch where
  steps := [{ name := .searchTrades, args := [] },
    { name := .queryDatabase, args := [], condition := some "0" },
    { name := .searchTrades, args := [], rule := some { minCount := some 2 } },
    { name := .queryDatabase, args := [] }]

theorem run_halts_rehearsed :
    let e := rehearsal {} [{ name := .searchTrades, replies := [.give (.ok (.array [.null]))] },
      { name := .queryDatabase }]
    ∃ unmet stop s', e.Accepts rehearsedHalt ∧
      e.run rehearsedHalt (.start {}) = (.error (.validationFailure unmet stop), s') ∧
        stop.position = 3 ∧
      ∃ step sessions o, e.Halt rehearsedHalt (.start {}) s' (.validationFailure unmet stop) stop
        step sessions o := by
  intro e
  have ha : e.Accepts rehearsedHalt := rfl
  have hk : (match (e.run rehearsedHalt (.start {})).1 with
      | .error (.validationFailure _ stop) => stop.position
      | _ => 0) = 3 := by decide +kernel
  rcases h : e.run rehearsedHalt (.start {}) with ⟨error | report, s'⟩
  · rw [h] at hk
    obtain ⟨stop, step, sessions, o, ho⟩ := run_halts e rehearsedHalt _ s' error ha h
    cases error with
    | validationFailure unmet stop' =>
      obtain rfl : stop' = stop := Option.some.inj ho.stop_eq
      exact ⟨unmet, stop', s', ha, rfl, hk, step, sessions, o, ho⟩
    | rejected _ => cases hk
    | invalidStep _ _ => cases hk
    | toolFailure _ _ => cases hk
  · rw [h] at hk
    cases hk

end Engine

end Toolflow
