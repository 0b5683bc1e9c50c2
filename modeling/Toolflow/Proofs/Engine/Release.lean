import Toolflow.Proofs.Engine.Steps

/-!
Keys that a run generates do not outlive it. Unless deferral is asked for, a generated key comes
with the outcome of its step, so the run records it before it can stop (`Reaches.minted`) and
releases it at the end. Main statement: `released_of_cleanup`.
-/

namespace Toolflow

open Json

namespace Engine

/-- No step that a run of the batch dispatches asks for deferral, once its arguments are
resolved. -/
def NeverDefers (e : Engine) (batch : Batch) (s₀ : Session) : Prop :=
  ∀ i step args s, e.Dispatches batch s₀ i step args s → asksToDefer args = false

theorem keys_argsFor (e : Engine) (history : History) (step : Step) :
    Members.keys (e.argsFor history step) = Members.keys step.args := by
  unfold argsFor
  generalize step.args = args
  induction args with
  | nil => rfl
  | cons m rest ih =>
    obtain ⟨argument, v⟩ := m
    exact congrArg (argument :: ·) ih

/-- The keys that were generated from one session to the other are among the recorded ones. -/
def Recorded (s₀ s : Session) (recorded : List String) : Prop :=
  ∃ minted, s.keys = s₀.keys ++ minted ∧ ∀ key ∈ minted, key ∈ recorded

variable {e : Engine} {batch : Batch} {s₀ s s' : Session} {n : Nat} {p p' : Progress} {step : Step}
  {preserve : Bool} {failure? : Option StepFailure}

theorem Recorded.refl (s : Session) (recorded : List String) : Recorded s s recorded :=
  ⟨[], by simp, by simp⟩

theorem Recorded.trans {keys keys' : List String} (h : Recorded s₀ s keys)
    (h' : Recorded s s' keys') (hk : keys ⊆ keys') : Recorded s₀ s' keys' := by
  obtain ⟨minted, hm, hr⟩ := h
  obtain ⟨minted', hm', hr'⟩ := h'
  refine ⟨minted ++ minted', by rw [hm', hm, List.append_assoc], ?_⟩
  intro key hkey
  rcases List.mem_append.mp hkey with hkey | hkey
  · exact hk (hr key hkey)
  · exact hr' key hkey

theorem recorded_dispatch {tool : Tool} {name : ToolName} {args : Members} {o : Outcome}
    (ht : e.registry.get? name = some tool) (hd : asksToDefer args = false)
    (h : e.dispatch name.text args preserve s = (o, s')) (keys : List String) :
    Recorded s s' (keys ++ o.cacheKey.toList) := by
  have hkeys := e.keys_dispatch args preserve s ht hd
  rw [h] at hkeys
  obtain ⟨minted, hm, hc⟩ := hkeys
  refine ⟨minted, hm, fun key hk => ?_⟩
  have hkey : o.cacheKey = some key := hc key hk
  exact List.mem_append_right _ (by simp [hkey])

/-- A key that comes with the outcome of a step is recorded even if the step fails. -/
theorem Taken.minted (h : e.Taken preserve step p s failure? p' s')
    (hl : p.last = p.history.lastOutcome?) (hr : ∃ tool, e.registry.get? step.name = some tool)
    (hd : ¬ step.Barred p.history → asksToDefer (e.argsFor p.history step) = false) :
    p.keys ⊆ p'.keys ∧ Recorded s s' p'.keys := by
  obtain ⟨tool, ht⟩ := hr
  cases h with
  | passedOver => exact ⟨List.Subset.refl _, .refl s _⟩
  | executed hp ho =>
    exact ⟨List.subset_append_left .., recorded_dispatch ht (hd (not_barred hl hp)) ho _⟩
  | failed hp ho =>
    exact ⟨List.subset_append_left .., recorded_dispatch ht (hd (not_barred hl hp)) ho _⟩

theorem asksToDefer_of_notMem {args : Members} (h : deferArgument ∉ Members.keys args) :
    asksToDefer args = false := by
  have hn : Members.get? args deferArgument = none := by
    rw [Members.get?, List.lookup_eq_none_iff]
    intro m hm
    have hne : deferArgument ≠ m.1 := fun heq => h (heq ▸ List.mem_map_of_mem hm)
    simpa using hne
  rw [asksToDefer, hn]
  rfl

/-- A batch in which no step names the argument cannot come to ask for deferral. -/
theorem neverDefers_of_notMem (h : ∀ step ∈ batch.steps, deferArgument ∉ Members.keys step.args) :
    e.NeverDefers batch s₀ := by
  rintro i step args s ⟨-, hs, p, -, -, rfl⟩
  have hk := h step (List.mem_of_getElem? hs)
  rw [← e.keys_argsFor p.history step] at hk
  exact asksToDefer_of_notMem hk

theorem asksToDefer_of_neverDefers (hd : e.NeverDefers batch s₀) (ha : e.Accepts batch)
    (h : e.Reaches batch.steps s₀ n p s) (hs : batch.steps[n]? = some step)
    (hb : ¬ step.Barred p.history) :
    asksToDefer (e.argsFor p.history step) = false :=
  hd n step _ s ⟨ha, hs, p, h, hb, rfl⟩

theorem Recorded.next (h : Recorded s₀ s p.keys) (ha : e.Accepts batch)
    (hd : e.NeverDefers batch s₀) (hr : e.Reaches batch.steps s₀ n p s)
    (hs : batch.steps[n]? = some step)
    (ht : e.takeStep preserve step p s = (failure?, p', s')) : Recorded s₀ s' p'.keys := by
  obtain ⟨hk, hm⟩ := (e.takeStep_taken ht).minted hr.last_eq
    (registered_of_accepts ha (List.mem_of_getElem? hs)) (asksToDefer_of_neverDefers hd ha hr hs)
  exact h.trans hm hk

theorem Reaches.minted (ha : e.Accepts batch) (hd : e.NeverDefers batch s₀)
    (h : e.Reaches batch.steps s₀ n p s) :
    Recorded s₀ s p.keys := by
  induction h with
  | start => exact .refl s₀ _
  | next h hs ht ih => exact ih.next ha hd h hs ht

theorem find?_finish (hc : e.config.cleanup = true) (p : Progress) (s : Session) {key : String}
    (hk : key ∈ p.keys) :
    (e.finish p s).store.find? key = none := by
  rw [finish, if_pos hc, find?_purge, find?_deleteAll, if_pos hk, Option.filter_none]

theorem Recorded.finish (hc : e.config.cleanup = true) (h : Recorded s₀ s p.keys) :
    ∃ minted, (e.finish p s).keys = s₀.keys ++ minted ∧
      ∀ key ∈ minted, (e.finish p s).store.find? key = none := by
  obtain ⟨minted, hm, hr⟩ := h
  have hq : s.Quiet (e.finish p s) := finish_quiet p s
  exact ⟨minted, hq.keys.trans hm, fun key hk => find?_finish hc p s (hr key hk)⟩

/-- With cleanup, none of the keys that a run generates is left in the store, whatever the run ends
with. -/
theorem released_of_cleanup (e : Engine) (batch : Batch) (s s' : Session)
    (result : Except BatchError Report) (hc : e.config.cleanup = true) (ha : e.Accepts batch)
    (hd : e.NeverDefers batch s) (h : e.run batch s = (result, s')) :
    ∃ minted, s'.keys = s.keys ++ minted ∧ ∀ key ∈ minted, s'.store.find? key = none := by
  cases run_ends ha h with
  | completed hr => exact (hr.minted ha hd).finish hc
  | stopped hr hs ht =>
    have hm : Recorded s _ _ := (hr.minted ha hd).next ha hd hr hs ht
    exact hm.finish hc

/-- A search whose result is kept, and a step that uses the kept copy up and then breaks its
rule. -/
def rehearsedRelease : Batch where
  steps := [{ name := .searchTrades, args := [] },
    { name := .queryDatabase, args := [("trades", .string "EXTRACT_0.cacheKey")],
      rule := some { minCount := some 5 } }]

theorem released_of_cleanup_rehearsed :
    let e := rehearsal {}
      [{ name := .searchTrades, replies := [.give (.ok (.array [.null]))], large := some true },
       { name := .queryDatabase }]
    e.config.cleanup = true ∧ e.Accepts rehearsedRelease ∧
      e.NeverDefers rehearsedRelease (.start {}) ∧
      ∃ error s', e.run rehearsedRelease (.start {}) = (.error error, s') ∧ s'.keys.length = 1 ∧
        ∃ minted, s'.keys = [] ++ minted ∧ ∀ key ∈ minted, s'.store.find? key = none := by
  intro e
  have ha : e.Accepts rehearsedRelease := rfl
  have hd : e.NeverDefers rehearsedRelease (.start {}) := neverDefers_of_notMem (by decide)
  have hk : (e.run rehearsedRelease (.start {})).1.isOk = false ∧
      (e.run rehearsedRelease (.start {})).2.keys.length = 1 := by decide +kernel
  refine ⟨rfl, ha, hd, ?_⟩
  rcases h : e.run rehearsedRelease (.start {}) with ⟨error | report, s'⟩
  · rw [h] at hk
    exact ⟨error, s', rfl, hk.2, released_of_cleanup e rehearsedRelease _ s' _ rfl ha hd h⟩
  · rw [h] at hk
    cases hk.1

end Engine

end Toolflow
