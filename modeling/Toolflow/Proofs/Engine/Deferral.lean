import Toolflow.Proofs.Engine.Steps

/-!
When the result of a step stays what its tool replied. Batches that ask for deferral are refused,
but the arguments are looked at as submitted, and a directive among them can still resolve to a
request. Main statements: `dispatched_agrees_iff`, `accepted_batch_defers`.
-/

namespace Toolflow

open Json

/-- Two outcomes tell the same; the key of a copy is left out of account. -/
structure Outcome.Agrees (o r : Outcome) : Prop where
  success : o.success = r.success
  data : o.data = r.data
  error : o.error = r.error

namespace Engine

variable {e : Engine} {tool : Tool} {preserve : Bool} {s : Session}
  {reply : Except EngineError Outcome}

theorem settle_agrees {defer : Bool} (h : defer = false ∨ e.largeData? tool reply = none) :
    (e.settle tool defer preserve reply s).1.Agrees (.ofReply reply) ∧
      ((e.settle tool defer preserve reply s).1.cacheKey = (Outcome.ofReply reply).cacheKey ∨
        (e.settle tool defer preserve reply s).1.cacheKey = some (e.nextKey s)) := by
  rw [settle_eq]
  cases hl : e.largeData? tool reply with
  | none => exact ⟨⟨rfl, rfl, rfl⟩, .inl rfl⟩
  | some data =>
    obtain rfl : defer = false := h.resolve_right (by simp [hl])
    cases preserve with
    | false => exact ⟨⟨rfl, rfl, rfl⟩, .inl rfl⟩
    | true => exact ⟨⟨rfl, rfl, rfl⟩, .inr rfl⟩

theorem settle_deferred {data : Value} (h : e.largeData? tool reply = some data) :
    (e.settle tool true preserve reply s).1 = .ok (e.deferral (e.nextKey s) tool.name data) := by
  rw [settle_eq, h]
  rfl

/-- A summary agrees with a reply only if the reply has that very summary for its data. -/
theorem settle_deferred_agrees_iff {data : Value} (h : e.largeData? tool reply = some data) :
    (e.settle tool true preserve reply s).1.Agrees (.ofReply reply) ↔
      (Outcome.ofReply reply).error = none ∧ data = e.deferral (e.nextKey s) tool.name data := by
  obtain ⟨hs, hd, -⟩ := largeData?_eq_some_iff.mp h
  rw [settle_deferred h]
  constructor
  · intro ha
    have hdata : some (e.deferral (e.nextKey s) tool.name data) = some data := ha.data.trans hd
    exact ⟨ha.error.symm, (Option.some.inj hdata).symm⟩
  · rintro ⟨he, hx⟩
    exact ⟨hs.symm, by rw [hd, ← hx]; rfl, he.symm⟩

theorem settle_agrees_iff {defer : Bool} :
    (e.settle tool defer preserve reply s).1.Agrees (.ofReply reply) ↔
      ∀ data, defer = true → e.largeData? tool reply = some data →
        (Outcome.ofReply reply).error = none ∧ data = e.deferral (e.nextKey s) tool.name data := by
  cases hl : e.largeData? tool reply with
  | none => simp [settle_agrees (.inr hl)]
  | some data =>
    cases defer with
    | false => simp [settle_agrees (.inl rfl)]
    | true => simp [settle_deferred_agrees_iff hl]

/-- A dispatched step yields what its tool replied, a key apart, unless its resolved arguments ask
for deferral and the reply is a success with large data. Then a summary takes the place of the data,
and nothing but data that is its own summary would stay the same. -/
theorem dispatched_agrees_iff (e : Engine) (batch : Batch) (s₀ s : Session) (i : Nat) (step : Step)
    (args : Members) (h : e.Dispatches batch s₀ i step args s) :
    ∃ tool, e.registry.get? step.name = some tool ∧
      let o := (e.dispatch step.name.text args (i + 1 < batch.steps.length) s).1
      let reply := e.replyOf tool args s
      let key := e.nextKey (e.called tool args s)
      (o.Agrees (.ofReply reply) ↔ ∀ data, asksToDefer args = true →
        e.largeData? tool reply = some data →
        (Outcome.ofReply reply).error = none ∧ data = e.deferral key tool.name data) ∧
      (asksToDefer args = false ∨ e.largeData? tool reply = none →
        o.cacheKey = (Outcome.ofReply reply).cacheKey ∨ o.cacheKey = some key) ∧
      ∀ data, asksToDefer args = true → e.largeData? tool reply = some data →
        o = .ok (e.deferral key tool.name data) := by
  obtain ⟨ha, hs, -⟩ := h
  obtain ⟨tool, ht⟩ := registered_of_accepts ha (List.mem_of_getElem? hs)
  refine ⟨tool, ht, ?_⟩
  rw [e.dispatch_registered args _ s ht, invoke_eq]
  refine ⟨settle_agrees_iff, fun hn => (settle_agrees hn).2, fun data hd hl => ?_⟩
  rw [hd]
  exact settle_deferred hl

/-- A tool that says yes, and one that finds two trades and deems them many. -/
def flagEngine : Engine :=
  rehearsal {}
    [{ name := .queryDatabase, replies := [.give (.ok (.object [("flag", .bool true)]))] },
     { name := .searchTrades, replies := [.give (.ok (.array [.string "t1", .string "t2"]))],
       large := some true }]

/-- A step that takes the request for deferral from the result of the step before. -/
def flaggedStep : Step :=
  { name := .searchTrades, args := [(deferArgument, .string "EXTRACT_0.flag")] }

def flaggedBatch : Batch where
  steps := [{ name := .queryDatabase, args := [] }, flaggedStep]

def flaggedSession : Session :=
  (flagEngine.takeStep true { name := .queryDatabase, args := [] } {} (.start {})).2.2

theorem flaggedStep_dispatched :
    flagEngine.Dispatches flaggedBatch (.start {}) 1 flaggedStep
      [(deferArgument, .bool true)] flaggedSession := by
  refine ⟨rfl, rfl, _, .next .start rfl rfl, ?_, rfl⟩
  rintro ⟨c, hc, -⟩
  cases hc

theorem dispatched_agrees_iff_flagged :
    flagEngine.Dispatches flaggedBatch (.start {}) 1 flaggedStep
      [(deferArgument, .bool true)] flaggedSession ∧
    ∃ tool, flagEngine.registry.get? .searchTrades = some tool ∧
      ∀ data, flagEngine.largeData? tool
        (flagEngine.replyOf tool [(deferArgument, .bool true)] flaggedSession) =
          some data →
        (flagEngine.dispatch "searchTrades" [(deferArgument, .bool true)] false flaggedSession).1 =
          .ok (flagEngine.deferral (flagEngine.nextKey
            (flagEngine.called tool [(deferArgument, .bool true)] flaggedSession))
              tool.name data) := by
  obtain ⟨tool, ht, -, -, hd⟩ :=
    dispatched_agrees_iff flagEngine flaggedBatch (.start {}) flaggedSession 1 flaggedStep
      [(deferArgument, .bool true)] flaggedStep_dispatched
  exact ⟨flaggedStep_dispatched, tool, ht, fun data hl => hd data rfl hl⟩

/-- A batch is accepted, and yet the result of its last step is a summary where the tool replied
with trades. -/
theorem accepted_batch_defers :
    flagEngine.Accepts flaggedBatch ∧
    ∃ args s tool, flagEngine.Dispatches flaggedBatch (.start {}) 1 flaggedStep args s ∧
      flagEngine.registry.get? flaggedStep.name = some tool ∧
      ¬ (flagEngine.dispatch flaggedStep.name.text args false s).1.Agrees
        (.ofReply (flagEngine.replyOf tool args s)) := by
  refine ⟨rfl, _, _, _, flaggedStep_dispatched, rfl, fun h => ?_⟩
  have hk := congrArg (Option.map Value.kind) h.data
  exact absurd hk (by decide +kernel)

end Engine

end Toolflow
