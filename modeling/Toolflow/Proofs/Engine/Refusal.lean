import Toolflow.Proofs.Engine.Steps

/-!
Which batches are refused. A batch is run if it has a step, not too many of them, and if each of
them can be run. Otherwise it is refused, on account of the first step that cannot be run, and
nothing happens. Main statement: `run_proceeds_iff`.
-/

namespace Toolflow

open Json

/-- A search goes through a list from a position on and stops at the first element that `f` gives
something for. -/
structure Searches {α β γ : Type} (f : α → Option β) (found : α → β → Nat → γ)
    (search : Nat → List α → Option γ) :
    Prop where
  nil : ∀ n, search n [] = none
  cons : ∀ n x rest, search n (x :: rest) = ((f x).map (found x · n)).or (search (n + 1) rest)

namespace Searches

variable {α β γ : Type} {f : α → Option β} {found : α → β → Nat → γ}
  {search : Nat → List α → Option γ}

theorem append (h : Searches f found search) (n : Nat) {before : List α}
    (hb : ∀ u ∈ before, f u = none)
    (rest : List α) : search n (before ++ rest) = search (n + before.length) rest := by
  induction before generalizing n with
  | nil => rfl
  | cons u before ih =>
    obtain ⟨hu, hb⟩ := List.forall_mem_cons.mp hb
    rw [List.cons_append, h.cons, hu, Option.map_none, Option.none_or, ih (n + 1) hb,
      List.length_cons, Nat.add_assoc, Nat.add_comm 1]

theorem eq_some_iff (h : Searches f found search) (n : Nat) (xs : List α) (y : γ) :
    search n xs = some y ↔ ∃ before x after b, xs = before ++ x :: after ∧
      (∀ u ∈ before, f u = none) ∧
      f x = some b ∧ y = found x b (n + before.length) := by
  have hsplit : ∀ {before x after b}, (∀ u ∈ before, f u = none) → f x = some b →
      search n (before ++ x :: after) = some (found x b (n + before.length)) := by
    intro before x after b hb hx
    rw [h.append n hb, h.cons, hx, Option.map_some, Option.some_or]
  constructor
  · intro hy
    cases hf : xs.findSome? f with
    | none =>
      have hn := h.append n (List.findSome?_eq_none_iff.mp hf) []
      rw [List.append_nil, h.nil, hy] at hn
      cases hn
    | some b =>
      obtain ⟨before, x, after, rfl, hx, hb⟩ := List.findSome?_eq_some_iff.mp hf
      rw [hsplit hb hx] at hy
      exact ⟨before, x, after, b, rfl, hb, hx, (Option.some.inj hy).symm⟩
  · rintro ⟨before, x, after, b, rfl, hb, hx, rfl⟩
    exact hsplit hb hx

end Searches

theorem asksToDefer_iff (args : Members) :
    asksToDefer args = true ↔ Members.get? args deferArgument = some (.bool true) := by
  rw [asksToDefer, Option.any_eq_true]
  constructor
  · rintro ⟨v, hv, ht⟩
    unfold Value.isTrue at ht
    split at ht
    · exact hv
    · cases ht
  · exact fun h => ⟨_, h, rfl⟩

theorem Registry.contains_iff (r : Registry) (name : ToolName) :
    r.contains name = true ↔ ∃ tool ∈ r.tools, tool.name = name := by
  simp [contains, get?, List.find?_isSome]

namespace Engine

variable (e : Engine)

def Registered (step : Step) : Prop :=
  ∃ tool ∈ e.registry.tools, tool.name = step.name

/-- A step can be run. -/
structure Runs (step : Step) : Prop where
  registered : e.Registered step
  materialized : Members.get? step.args deferArgument ≠ some (.bool true)

/-- A batch can be run. -/
structure Runnable (batch : Batch) : Prop where
  nonempty : batch.steps ≠ []
  length_le : batch.steps.length ≤ e.config.maxSteps.toNat
  runs : ∀ step ∈ batch.steps, e.Runs step

/-- What a step is refused with. -/
inductive Rejects (step : Step) : EngineError → Prop where
  | unknownTool (h : ¬ e.Registered step) : Rejects step (.unknownTool step.name.text)
  | defersResult (hr : e.Registered step)
    (h : Members.get? step.args deferArgument = some (.bool true)) :
      Rejects step (.structural (.defersResult step.name))

/-- What a batch is refused with. A step is to blame if the number of steps is all right and no step
before it is. -/
inductive Refuses (batch : Batch) : BatchError → Prop where
  | noSteps (h : batch.steps = []) : Refuses batch (.rejected (.structural .noSteps))
  | tooManySteps (h : e.config.maxSteps.toNat < batch.steps.length) :
      Refuses batch (.rejected (.structural (.tooManySteps batch.steps.length e.config.maxSteps)))
  | invalidStep {before after : List Step} {step : Step} {error : EngineError}
      (hl : batch.steps.length ≤ e.config.maxSteps.toNat)
        (hs : batch.steps = before ++ step :: after)
      (hb : ∀ u ∈ before, e.Runs u) (h : e.Rejects step error) :
      Refuses batch (.invalidStep error ⟨[], step.name.text, before.length + 1⟩)

variable {e} {batch : Batch} {step : Step}

theorem stepError?_eq_some_iff {error : EngineError} :
    e.stepError? step = some error ↔ e.Rejects step error := by
  have hr : e.registry.contains step.name = true ↔ e.Registered step := Registry.contains_iff _ _
  unfold stepError?
  split
  · next h =>
    have hn : ¬ e.Registered step := by
      rw [← hr]
      simpa using h
    constructor
    · rintro ⟨⟩
      exact .unknownTool hn
    · rintro (_ | ⟨h', _⟩)
      · rfl
      · exact absurd h' hn
  · next h =>
    have hr : e.Registered step := by simpa [hr] using h
    split
    · next hd =>
      constructor
      · rintro ⟨⟩
        exact .defersResult hr ((asksToDefer_iff _).mp hd)
      · rintro (h' | _)
        · exact absurd hr h'
        · rfl
    · next hd =>
      constructor
      · rintro ⟨⟩
      · rintro (h' | ⟨_, h'⟩)
        · exact absurd hr h'
        · exact absurd ((asksToDefer_iff _).mpr h') hd

theorem Runs.not_rejects {error : EngineError} (h : e.Runs step) : ¬ e.Rejects step error := by
  rintro (hr | ⟨_, hd⟩)
  · exact hr h.registered
  · exact h.materialized hd

theorem stepError?_eq_none_iff : e.stepError? step = none ↔ e.Runs step := by
  rw [Option.eq_none_iff_forall_ne_some]
  simp only [ne_eq, stepError?_eq_some_iff]
  constructor
  · intro h
    have hr : e.Registered step := Classical.byContradiction fun hr => h _ (.unknownTool hr)
    exact ⟨hr, fun hd => h _ (.defersResult hr hd)⟩
  · exact fun h _ => h.not_rejects

theorem searches_invalidStep? :
    Searches e.stepError? (fun step error n =>
      .invalidStep error ⟨[], step.name.text, n⟩) e.invalidStep? where
  nil _ := rfl
  cons n step rest := by cases h : e.stepError? step <;> simp [invalidStep?, h]

theorem batchError?_eq_some_iff {error : BatchError} :
    e.batchError? batch = some error ↔ e.Refuses batch error := by
  unfold batchError?
  split
  · next h0 =>
    have hn : batch.steps = [] := List.eq_nil_of_length_eq_zero h0
    constructor
    · rintro ⟨⟩
      exact .noSteps hn
    · rintro (_ | hl | ⟨_, hs⟩)
      · rfl
      · omega
      · simp [hn] at hs
  · next h0 =>
    have hn : batch.steps ≠ [] := fun hn => h0 (by rw [hn, List.length_nil])
    split
    · next hl =>
      constructor
      · rintro ⟨⟩
        exact .tooManySteps hl
      · rintro (h | _ | ⟨hl', _⟩)
        · exact absurd h hn
        · rfl
        · omega
    · next hl =>
      rw [searches_invalidStep?.eq_some_iff]
      constructor
      · rintro ⟨before, step, after, error, hs, hb, he, rfl⟩
        rw [Nat.add_comm 1]
        exact .invalidStep (Nat.le_of_not_lt hl) hs
          (fun u hu => stepError?_eq_none_iff.mp (hb u hu))
          (stepError?_eq_some_iff.mp he)
      · rintro (h | h | ⟨_, hs, hb, he⟩)
        · exact absurd h hn
        · exact absurd h hl
        · refine ⟨_, _, _, _, hs,
            fun u hu => stepError?_eq_none_iff.mpr (hb u hu), stepError?_eq_some_iff.mpr he, ?_⟩
          rw [Nat.add_comm 1]

theorem accepts_iff : e.Accepts batch ↔ e.Runnable batch := by
  constructor
  · intro ha
    have hn : ∀ error, ¬ e.Refuses batch error := fun error he => by
      rw [Accepts, batchError?_eq_some_iff.mpr he] at ha
      cases ha
    exact {
      nonempty := fun h => hn _ (.noSteps h)
      length_le := Nat.le_of_not_lt fun h => hn _ (.tooManySteps h)
      runs := fun step hs => stepError?_eq_none_iff.mp (stepError?_of_accepts ha hs) }
  · intro h
    rw [Accepts, Option.eq_none_iff_forall_ne_some]
    simp only [ne_eq, batchError?_eq_some_iff]
    rintro error (h0 | hl | ⟨_, hs, _, he⟩)
    · exact h.nonempty h0
    · exact absurd h.length_le (Nat.not_le_of_lt hl)
    · exact (h.runs _ (by rw [hs]; exact List.mem_append_cons_self)).not_rejects he

/-- A run that takes steps does not end with an error that batches are refused with. -/
theorem Ends.accepts {s s' : Session} {result : Except BatchError Report}
    (hr : e.run batch s = (result, s')) (h : e.Ends batch s result s') : e.Accepts batch := by
  cases hb : e.batchError? batch with
  | none => exact hb
  | some error =>
    rw [run_refused hb] at hr
    cases h with
    | completed => cases hr
    | @stopped _ step _ p _ _ failure =>
      have hf : error = failure.error _ := Except.error.inj (congrArg Prod.fst hr)
      cases batchError?_eq_some_iff.mp hb <;> cases failure <;> cases hf

/-- The name of a step that is dispatched leads to a tool, so the call is not that of an unknown
function. -/
theorem Dispatches.known {s t : Session} {i : Nat} {args : Members}
    (h : e.Dispatches batch s i step args t) :
    ∃ tool, (ToolName.ofText? step.name.text).bind e.registry.get? = some tool ∧
      tool.name = step.name ∧
      ∀ preserve, e.dispatch step.name.text args preserve t = e.invoke tool args preserve t := by
  obtain ⟨ha, hs, -⟩ := h
  obtain ⟨tool, ht⟩ := registered_of_accepts ha (List.mem_of_getElem? hs)
  refine ⟨tool, ?_, Registry.name_of_get? ht,
    fun preserve => e.dispatch_registered args preserve t ht⟩
  rw [ToolName.ofText?_text, Option.bind_some, ht]

/-- A run takes the steps of those batches that can be run, and dispatches no step whose tool it
does not know. Any other batch is refused, and the session is as it was. -/
theorem run_proceeds_iff (e : Engine) (batch : Batch) (s : Session) :
    (e.Ends batch s (e.run batch s).1 (e.run batch s).2 ↔ e.Runnable batch) ∧
    (¬ e.Runnable batch → ∃ error, e.Refuses batch error ∧ e.run batch s = (.error error, s)) ∧
    ∀ i step args t, e.Dispatches batch s i step args t →
      ∃ tool, (ToolName.ofText? step.name.text).bind e.registry.get? = some tool ∧
        tool.name = step.name ∧
        ∀ preserve, e.dispatch step.name.text args preserve t = e.invoke tool args preserve t := by
  refine ⟨?_, ?_, fun i step args t h => h.known⟩
  · rw [← accepts_iff]
    exact ⟨fun h => h.accepts rfl, fun ha => run_ends ha rfl⟩
  · intro h
    rw [← accepts_iff, Accepts] at h
    obtain ⟨error, he⟩ := Option.ne_none_iff_exists'.mp h
    exact ⟨error, batchError?_eq_some_iff.mp he, run_refused he⟩

/-- A step that can be run, one that asks for deferral of a tool that is not there, and one that
asks for deferral. -/
def rehearsedRefusal : Batch where
  steps := [{ name := .queryDatabase, args := [] },
    { name := .searchTrades, args := [(deferArgument, .bool true)] },
    { name := .queryDatabase, args := [(deferArgument, .bool true)] }]

theorem run_proceeds_iff_rehearsed :
    let e := rehearsal {} [{ name := .queryDatabase }]
    ¬ e.Runnable rehearsedRefusal ∧ ∃ error, e.Refuses rehearsedRefusal error ∧
      e.run rehearsedRefusal (.start {}) = (.error error, .start {}) ∧
      error.message = "Unknown function: searchTrades (step 2)" := by
  intro e
  have hn : ¬ e.Runnable rehearsedRefusal := by
    rw [← accepts_iff]
    rintro ⟨⟩
  obtain ⟨error, he, hr⟩ := (run_proceeds_iff e rehearsedRefusal (.start {})).2.1 hn
  have hk : e.batchError? rehearsedRefusal = some error := batchError?_eq_some_iff.mpr he
  have hm : (e.batchError? rehearsedRefusal).map BatchError.message =
      some "Unknown function: searchTrades (step 2)" := by decide +kernel
  rw [hk] at hm
  exact ⟨hn, error, he, hr, Option.some.inj hm⟩

end Engine

end Toolflow
