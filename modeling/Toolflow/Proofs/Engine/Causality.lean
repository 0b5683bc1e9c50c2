import Toolflow.Proofs.Engine.Halt
import Toolflow.Proofs.Engine.Operations

/-!
Causality. What the steps of a batch see and do is up to them and the steps before: batches that
begin with the same steps pass through the same states, or stop at the same step. Main statement:
`run_causal`.
-/

namespace Toolflow

open Json

/-- The entries that a run leaves, whatever it ends with. -/
def recorded (result : Except BatchError Report) : History :=
  match result with
  | .ok report => report.entries
  | .error error => (error.stop?.map Stop.completed).getD []

namespace Engine

variable {e : Engine} {steps steps' : List Step} {s₀ s s' : Session} {n : Nat}
  {p p' : Progress} {step : Step} {preserve : Bool} {failure? : Option StepFailure}

/-- More steps come after the first `n` in both cases, so that results are preserved in both. -/
theorem Reaches.congr (h : e.Reaches steps s₀ n p s) (hn : ∀ i < n, steps[i]? = steps'[i]?)
    (hl : n < steps.length) (hl' : n < steps'.length) : e.Reaches steps' s₀ n p s := by
  induction h with
  | start => exact .start
  | @next n p p' s s' step h hs ht ih =>
    have hr := ih (fun i hi => hn i (Nat.lt_succ_of_lt hi)) (Nat.lt_of_succ_lt hl)
      (Nat.lt_of_succ_lt hl')
    rw [hn n (Nat.lt_succ_self n)] at hs
    rw [decide_eq_true hl, ← decide_eq_true hl'] at ht
    exact hr.next hs ht

theorem Reaches.takeSteps_eq (h : e.Reaches steps s₀ n p s) :
    e.takeSteps 1 steps {} s₀ = e.takeSteps (n + 1) (steps.drop n) p s := by
  induction h with
  | start => rfl
  | next _ hs ht ih => rw [ih, takeSteps_drop hs, ht]

theorem Taken.keeps_history (h : e.Taken preserve step p s failure? p' s') :
    p.history <+: p'.history := by
  cases h with
  | passedOver => exact List.prefix_append ..
  | executed => exact List.prefix_append ..
  | failed => exact List.prefix_rfl

/-- The history is only ever added to, and an error tells all of it. -/
theorem takeSteps_history (position : Nat) (steps : List Step) (p : Progress) (s : Session)
    {error? : Option BatchError}
    (h : e.takeSteps position steps p s = (error?, p', s')) : p.history <+: p'.history ∧
      ∀ error, error? = some error → error.stop?.map Stop.completed = some p'.history := by
  induction steps generalizing position p s with
  | nil =>
    cases h
    exact ⟨List.prefix_rfl, by simp⟩
  | cons step rest ih =>
    rw [takeSteps] at h
    rcases ht : e.takeStep (!rest.isEmpty) step p s with ⟨_ | failure, q, t⟩
    · rw [ht] at h
      obtain ⟨hp, he⟩ := ih _ _ _ h
      exact ⟨(e.takeStep_taken ht).keeps_history.trans hp, he⟩
    · rw [ht] at h
      cases h
      refine ⟨(e.takeStep_taken ht).keeps_history, ?_⟩
      rintro _ ⟨⟩
      rw [StepFailure.stop?_error, Option.map_some]

theorem kept_calls (e : Engine) (calls : List Call) : e.Kept fun s => calls <+: s.calls where
  record _ _ h := h.trans (List.prefix_append ..)
  keep _ _ _ h := h
  peek _ _ h := h
  take _ _ h := h
  delete _ _ h := h
  purge _ h := h
  clear _ h := h

/-- The run of a batch comes to a state after `n` steps and goes on from there. What it has recorded
by then and the calls that it has made stay as they are. -/
structure Passes (e : Engine) (batch : Batch) (s₀ : Session) (n : Nat) (p : Progress)
    (s : Session) : Prop where
  reaches : e.Reaches batch.steps s₀ n p s
  goes_on : e.takeSteps 1 batch.steps {} s₀ = e.takeSteps (n + 1) (batch.steps.drop n) p s
  history : p.history <+: recorded (e.run batch s₀).1
  calls : s.calls <+: (e.run batch s₀).2.calls

variable {b b' : Batch}

theorem Kept.reaches {P : Session → Prop} (hk : e.Kept P) (h : e.Reaches steps s₀ n p s)
    (h₀ : P s₀) : P s := by
  induction h with
  | start => exact h₀
  | @next n p p' s s' step _ _ ht ih =>
    have hp := hk.takeStep (n + 1 < steps.length) step p ih
    rwa [ht] at hp

/-- What is kept from a state of a run on holds when the run ends. -/
theorem Kept.run_of_reaches {P : Session → Prop} (hk : e.Kept P) (ha : e.Accepts b)
    (h : e.Reaches b.steps s₀ n p s) (hs : P s) : P (e.run b s₀).2 := by
  have hb : e.batchError? b = none := ha
  have ht := hk.takeSteps (n + 1) (b.steps.drop n) p hs
  rw [← h.takeSteps_eq] at ht
  rw [Engine.run, hb]
  exact hk.finish _ ht

theorem Reaches.passes (ha : e.Accepts b) (h : e.Reaches b.steps s₀ n p s) :
    e.Passes b s₀ n p s := by
  refine ⟨h, h.takeSteps_eq, ?_, (kept_calls e s.calls).run_of_reaches ha h List.prefix_rfl⟩
  rcases hr : e.takeSteps (n + 1) (b.steps.drop n) p s with ⟨error?, q, t⟩
  obtain ⟨hp, he⟩ := takeSteps_history _ _ _ _ hr
  have hb : e.batchError? b = none := ha
  simp only [run, hb, h.takeSteps_eq, hr]
  cases error? with
  | none => exact hp
  | some error =>
    simp only [recorded, Option.elim_some, he error rfl, Option.getD_some]
    exact hp

theorem Reaches.run_eq {q : Progress} {t : Session} {failure : StepFailure} (ha : e.Accepts b)
    (h : e.Reaches b.steps s₀ n p s) (hs : b.steps[n]? = some step)
    (ht : e.takeStep (n + 1 < b.steps.length) step p s = (some failure, q, t)) :
    e.run b s₀ = (.error (failure.error ⟨q.history, step.name.text, n + 1⟩), e.finish q t) := by
  have hb : e.batchError? b = none := ha
  have hg := h.takeSteps_eq
  rw [takeSteps_drop hs, ht] at hg
  simp only [run, hb, hg, Option.elim_some]

/-- What is kept from the state after any one step on holds when the run ends, if it ends with that
step or later. -/
theorem Kept.run_of_takeStep {P : Session → Prop} (hk : e.Kept P) (ha : e.Accepts b)
    (h : e.Reaches b.steps s₀ n p s) (hs : b.steps[n]? = some step)
    (ht : P (e.takeStep (n + 1 < b.steps.length) step p s).2.2) : P (e.run b s₀).2 := by
  rcases hr : e.takeStep (n + 1 < b.steps.length) step p s with ⟨_ | failure, q, t⟩
  · rw [hr] at ht
    exact hk.run_of_reaches ha (h.next hs hr) ht
  · rw [hr] at ht
    rw [h.run_eq ha hs hr]
    exact hk.finish q ht

/-- Two batches that begin with the same `n` steps, and have more. Either both runs stop within
these steps, and then with the same error in the same session, or both come to the same state. -/
theorem run_causal (e : Engine) (b b' : Batch) (s₀ : Session) (n : Nat) (ha : e.Accepts b)
    (ha' : e.Accepts b') (hl : n < b.steps.length) (hl' : n < b'.steps.length)
    (hn : b.steps.take n = b'.steps.take n) :
    (∃ error stop s, error.stop? = some stop ∧ 1 ≤ stop.position ∧ stop.position ≤ n ∧
      e.run b s₀ = (.error error, s) ∧ e.run b' s₀ = (.error error, s)) ∨
    ∃ p s, e.Passes b s₀ n p s ∧ e.Passes b' s₀ n p s := by
  have hget : ∀ i < n, b.steps[i]? = b'.steps[i]? := fun i hi => by
    rw [← List.getElem?_take_of_lt hi, hn, List.getElem?_take_of_lt hi]
  have hpass : ∀ {m p s}, n ≤ m → e.Reaches b.steps s₀ m p s →
      ∃ p s, e.Passes b s₀ n p s ∧ e.Passes b' s₀ n p s := by
    intro m p s hm h
    obtain ⟨q, t, hr⟩ := h.of_le hm
    exact ⟨q, t, hr.passes ha, (hr.congr hget hl hl').passes ha'⟩
  rcases h : e.run b s₀ with ⟨result, s⟩
  cases run_ends ha h with
  | completed hr => exact .inr (hpass (Nat.le_of_lt hl) hr)
  | @stopped k step q p t u failure hr hs ht =>
    rcases Nat.lt_or_ge k n with hk | hk
    · -- The step fails in the other batch too: it is taken in the same state, and more steps come
      -- after it.
      have hr' : e.Reaches b'.steps s₀ k q t :=
        hr.congr (fun i hi => hget i (Nat.lt_trans hi hk)) (Nat.lt_trans hk hl)
          (Nat.lt_trans hk hl')
      rw [hget k hk] at hs
      rw [decide_eq_true (Nat.lt_of_le_of_lt hk hl),
        ← decide_eq_true (Nat.lt_of_le_of_lt hk hl')] at ht
      exact .inl ⟨_, ⟨p.history, step.name.text, k + 1⟩, _, StepFailure.stop?_error ..,
        Nat.le_add_left .., hk, rfl, hr'.run_eq ha' hs ht⟩
    · exact .inr (hpass hk hr)

/-- A search whose result is kept, and a step that uses the kept copy up; then a step of one's
own. -/
def rehearsedOpening (last : Step) : Batch where
  steps := [{ name := .searchTrades, args := [] },
    { name := .queryDatabase, args := [("trades", .string "EXTRACT_0.cacheKey")] }, last]

theorem run_causal_rehearsed :
    let e := rehearsal {}
      [{ name := .searchTrades, replies := [.give (.ok (.array [.null]))], large := some true },
       { name := .queryDatabase }]
    let b := rehearsedOpening { name := .queryDatabase, args := [] }
    let b' := rehearsedOpening
      { name := .searchTrades, args := [], rule := some { minCount := some 2 } }
    e.Accepts b ∧ e.Accepts b' ∧ b.steps.take 2 = b'.steps.take 2 ∧
      (e.run b (.start {})).1.isOk = true ∧ (e.run b' (.start {})).1.isOk = false ∧
      ∃ p s, e.Passes b (.start {}) 2 p s ∧ e.Passes b' (.start {}) 2 p s := by
  intro e b b'
  have ha : e.Accepts b := rfl
  have ha' : e.Accepts b' := rfl
  have hn : b.steps.take 2 = b'.steps.take 2 := rfl
  have hk : (e.run b (.start {})).1.isOk = true ∧ (e.run b' (.start {})).1.isOk = false := by
    decide +kernel
  refine ⟨ha, ha', hn, hk.1, hk.2, ?_⟩
  obtain ⟨error, stop, s, -, -, -, h, -⟩ | hp :=
    run_causal e b b' (.start {}) 2 ha ha' (by decide) (by decide) hn
  · rw [h] at hk
    cases hk.1
  · exact hp

end Engine

end Toolflow
