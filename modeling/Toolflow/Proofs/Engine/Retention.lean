import Toolflow.Proofs.Engine.Causality
import Toolflow.Proofs.Engine.Release

/-!
What a run leaves in the store. An item whose key no step names stays where it is while the steps
are taken (`Reaches.spares`). When they are, the keys that came with their outcomes are released,
and a key can come with an outcome that was not generated for it. Main statements: `retained_iff`,
`named_item_lost`.
-/

namespace Toolflow

open Json Cache

theorem Cache.Store.outlived_of_lifespan_eq {s t : Store} (h : s.lifespan = t.lifespan) :
    s.outlived = t.outlived := by
  unfold outlived
  rw [h]

/-- What is under a key stays under it from one session to the other, unless that very key is
generated. -/
def Session.Spares (key : String) (s s' : Session) : Prop :=
  ∃ minted, s'.keys = s.keys ++ minted ∧ (key ∉ minted → s'.store.find? key = s.store.find? key)

namespace Session.Spares

variable {key : String} {s t u : Session}

theorem of_quiet (hq : s.Quiet t) (hf : t.store.find? key = s.store.find? key) : s.Spares key t :=
  ⟨[], by rw [hq.keys, List.append_nil], fun _ => hf⟩

theorem refl (key : String) (s : Session) : s.Spares key s :=
  of_quiet (.refl s) rfl

theorem trans (h : s.Spares key t) (h' : t.Spares key u) : s.Spares key u := by
  obtain ⟨minted, hm, hf⟩ := h
  obtain ⟨minted', hm', hf'⟩ := h'
  refine ⟨minted ++ minted', by rw [hm', hm, List.append_assoc], fun hk => ?_⟩
  rw [List.mem_append, not_or] at hk
  exact (hf' hk.2).trans (hf hk.1)

theorem find?_eq (h : s.Spares key t) {minted : List String} (hm : t.keys = s.keys ++ minted)
    (hk : key ∉ minted) :
    t.store.find? key = s.store.find? key := by
  obtain ⟨minted', hm', hf⟩ := h
  obtain rfl := List.append_cancel_left (hm.symm.trans hm')
  exact hf hk

end Session.Spares

namespace Engine

section Operations

variable (e : Engine) (tool : Tool) {args : Members} (preserve : Bool) (s : Session) {key : String}

theorem take_spares {other : String} (h : key ≠ other) : s.Spares key (e.take other s).2 := by
  exact .of_quiet (e.take_quiet other s) (by simp [h])

theorem materializeArgument_spares (shape : Shape) {v : Value} (hv : v ≠ .string key) :
    s.Spares key (e.materializeArgument shape v s).2 := by
  unfold materializeArgument
  split
  · next text =>
    have hk : key ≠ text := fun hk => hv (congrArg Value.string hk.symm)
    split
    · exact e.take_spares s hk
    · exact .refl key s
  · exact .refl key s

theorem materialize_spares (h : ∀ m ∈ args, m.2 ≠ .string key) :
    s.Spares key (e.materialize tool args s).2 := by
  induction args generalizing s with
  | nil => exact .refl key s
  | cons m rest ih =>
    obtain ⟨hm, hr⟩ := List.forall_mem_cons.mp h
    exact (e.materializeArgument_spares s (tool.shape m.1) hm).trans (ih _ hr)

theorem keep_spares (producer : ToolName) (data : Value) :
    s.Spares key (e.keep producer data s).2 := by
  refine ⟨[e.nextKey s], rfl, fun hk => ?_⟩
  have hne : key ≠ e.nextKey s := fun h => hk (List.mem_singleton.mpr h)
  simp [hne]

theorem settle_spares (defer : Bool) (reply : Except EngineError Outcome) :
    s.Spares key (e.settle tool defer preserve reply s).2 := by
  rw [settle_eq]
  cases e.largeData? tool reply with
  | none => exact .refl key s
  | some data =>
    have hk : s.Spares key (e.keep tool.name data s).2 := e.keep_spares s tool.name data
    cases defer with
    | true => exact hk
    | false => cases preserve with
      | true => exact hk
      | false => exact .refl key s

theorem dispatch_spares (name : String)
    (h : ∀ m ∈ Members.erase args deferArgument, m.2 ≠ .string key) :
    s.Spares key (e.dispatch name args preserve s).2 := by
  unfold dispatch
  split
  · next tool _ =>
    rw [invoke_eq]
    have hm : s.Spares key (e.materialize tool (Members.erase args deferArgument) s).2 :=
      e.materialize_spares tool s h
    have hc : s.Spares key (e.called tool args s) := hm
    exact hc.trans (e.settle_spares tool preserve _ _ _)
  · exact .refl key s

/-- A key that comes with an outcome was in the reply of the tool, or it was generated for the
outcome. -/
theorem settle_cacheKey (defer : Bool) {reply : Except EngineError Outcome}
    (h : (e.settle tool defer preserve reply s).1.cacheKey = some key) :
    (Outcome.ofReply reply).cacheKey = some key ∨ (e.settle tool defer preserve reply s).2.keys =
      s.keys ++ [key] := by
  rw [settle_eq] at h ⊢
  cases hl : e.largeData? tool reply with
  | none =>
    rw [hl] at h
    exact .inl h
  | some data =>
    rw [hl] at h
    cases defer with
    | true => cases h
    | false => cases preserve with
      | true =>
        obtain rfl := Option.some.inj h
        exact .inr rfl
      | false => exact .inl h

end Operations

variable (e : Engine)

/-- A step that a run dispatches has a key among its arguments. -/
def Carries (batch : Batch) (s₀ : Session) (key : String) : Prop :=
  ∃ i step args s, e.Dispatches batch s₀ i step args s ∧ ∃ m ∈ args, m.2 = .string key

/-- The outcome of the step at a position of a run comes with a key. -/
def Brings (batch : Batch) (s₀ : Session) (i : Nat) (key : String) : Prop :=
  ∃ step args s, e.Dispatches batch s₀ i step args s ∧
    (e.dispatch step.name.text args (i + 1 < batch.steps.length) s).1.cacheKey = some key

/-- The tool of the step at a position of a run replies with a key. -/
def RepliesWith (batch : Batch) (s₀ : Session) (i : Nat) (key : String) : Prop :=
  ∃ step args s tool, e.Dispatches batch s₀ i step args s ∧ e.registry.get? step.name = some tool ∧
    (Outcome.ofReply (e.replyOf tool args s)).cacheKey = some key

variable {e} {batch : Batch} {steps : List Step} {s₀ s s' : Session} {n i : Nat}
  {p p' : Progress} {step : Step} {preserve : Bool} {failure? : Option StepFailure} {key : String}
  {item : Item}

theorem Taken.barred_or_dispatched (h : e.Taken preserve step p s failure? p' s')
    (hl : p.last = p.history.lastOutcome?) :
    step.Barred p.history ∧ s' = s ∧ p'.keys = p.keys ∨
    ¬ step.Barred p.history ∧ ∃ o, e.dispatch step.name.text
      (e.argsFor p.history step) preserve s = (o, s') ∧
      p'.keys = p.keys ++ o.cacheKey.toList := by
  cases h with
  | passedOver hp => exact .inl ⟨(passesOver_eq_true_iff hl step).mp hp, rfl, rfl⟩
  | executed hp hd => exact .inr ⟨not_barred hl hp, _, hd, rfl⟩
  | failed hp hd => exact .inr ⟨not_barred hl hp, _, hd, rfl⟩

theorem Taken.spares (h : e.Taken preserve step p s failure? p' s')
    (hl : p.last = p.history.lastOutcome?)
    (hc : ¬ step.Barred p.history → ∀ m ∈ e.argsFor p.history step, m.2 ≠ .string key) :
    s.Spares key s' := by
  obtain ⟨-, rfl, -⟩ | ⟨hb, o, hd, -⟩ := h.barred_or_dispatched hl
  · exact .refl key s'
  · have hs := e.dispatch_spares preserve s step.name.text fun m hm =>
      hc hb m (List.mem_filter.mp hm).1
    rwa [hd] at hs

theorem Taken.mem_keys_iff (h : e.Taken preserve step p s failure? p' s')
    (hl : p.last = p.history.lastOutcome?) :
    key ∈ p'.keys ↔ key ∈ p.keys ∨ ¬ step.Barred p.history ∧
      (e.dispatch step.name.text (e.argsFor p.history step) preserve s).1.cacheKey = some key := by
  obtain ⟨hb, -, hk⟩ | ⟨hb, o, hd, hk⟩ := h.barred_or_dispatched hl
  · simp [hk, hb]
  · simp [hk, hb, hd]

theorem Reaches.brings_iff (ha : e.Accepts batch) (h : e.Reaches batch.steps s₀ n p s)
    (hs : batch.steps[n]? = some step) :
    e.Brings batch s₀ n key ↔ ¬ step.Barred p.history ∧
      (e.dispatch step.name.text (e.argsFor p.history step)
        (n + 1 < batch.steps.length) s).1.cacheKey = some key := by
  constructor
  · rintro ⟨step', args, t, ⟨-, hs', q, hq, hb, rfl⟩, hk⟩
    obtain ⟨rfl, rfl⟩ := h.unique hq
    obtain rfl := Option.some.inj (hs.symm.trans hs')
    exact ⟨hb, hk⟩
  · rintro ⟨hb, hk⟩
    exact ⟨step, _, s, ⟨ha, hs, p, h, hb, rfl⟩, hk⟩

/-- The keys that are recorded are those that came with outcomes. -/
theorem Reaches.mem_keys_iff (ha : e.Accepts batch) (h : e.Reaches batch.steps s₀ n p s) :
    key ∈ p.keys ↔ ∃ i < n, e.Brings batch s₀ i key := by
  induction h with
  | start => simp
  | @next n p p' s s' step h hs ht ih =>
    rw [(e.takeStep_taken ht).mem_keys_iff h.last_eq, ih, ← h.brings_iff ha hs]
    simp only [Nat.lt_succ_iff_lt_or_eq, or_and_right, exists_or, exists_eq_left]

theorem not_carries (hc : ¬ e.Carries batch s₀ key) (ha : e.Accepts batch)
    (h : e.Reaches batch.steps s₀ n p s) (hs : batch.steps[n]? = some step)
    (hb : ¬ step.Barred p.history) :
    ∀ m ∈ e.argsFor p.history step, m.2 ≠ .string key :=
  fun m hm hv => hc ⟨n, step, _, s, ⟨ha, hs, p, h, hb, rfl⟩, m, hm, hv⟩

theorem not_carries_of_args_nil (h : ∀ step ∈ batch.steps, step.args = []) :
    ¬ e.Carries batch s₀ key := by
  rintro ⟨i, step, _, s, ⟨-, hs, p, -, -, rfl⟩, m, hm, -⟩
  rw [argsFor, h step (List.mem_of_getElem? hs)] at hm
  cases hm

theorem Reaches.spares (ha : e.Accepts batch) (hc : ¬ e.Carries batch s₀ key)
    (h : e.Reaches batch.steps s₀ n p s) :
    s₀.Spares key s := by
  induction h with
  | start => exact .refl key s₀
  | next h hs ht ih =>
    exact ih.trans ((e.takeStep_taken ht).spares h.last_eq (not_carries hc ha h hs))

/-- A run takes no step after one that fails. -/
theorem Reaches.le_of_failed {m : Nat} {q : Progress} {t : Session} {failure : StepFailure}
    (h : e.Reaches steps s₀ n p s) (hs : steps[n]? = some step)
    (ht : e.takeStep (n + 1 < steps.length) step p s = (some failure, p', s'))
    (hm : e.Reaches steps s₀ m q t) : m ≤ n := by
  by_contra hn
  obtain ⟨_, _, hr⟩ := hm.of_le (Nat.lt_of_not_le hn)
  cases hr with
  | next hr hs' ht' =>
    obtain ⟨rfl, rfl⟩ := h.unique hr
    obtain rfl := Option.some.inj (hs.symm.trans hs')
    cases ht.symm.trans ht'

theorem Brings.reached (h : e.Brings batch s₀ i key) :
    i < batch.steps.length ∧ ∃ p s, e.Reaches batch.steps s₀ i p s := by
  obtain ⟨step, args, s, ⟨-, hs, p, hr, -⟩, -⟩ := h
  exact ⟨(List.getElem?_eq_some_iff.mp hs).1, p, s, hr⟩

/-- What a run releases at its end are the keys that came with outcomes, in a store that is
otherwise spared. -/
theorem Ends.finished {result : Except BatchError Report} (ha : e.Accepts batch)
    (h : e.Ends batch s₀ result s') (hc : ¬ e.Carries batch s₀ key) :
    ∃ p s, s' = e.finish p s ∧ s₀.Spares key s ∧ (key ∈ p.keys ↔ ∃ i, e.Brings batch s₀ i key) := by
  cases h with
  | @completed p s hr =>
    refine ⟨p, s, rfl, hr.spares ha hc, ?_⟩
    rw [hr.mem_keys_iff ha]
    constructor
    · rintro ⟨i, -, h⟩
      exact ⟨i, h⟩
    · rintro ⟨i, h⟩
      exact ⟨i, h.reached.1, h⟩
  | @stopped k step q p t s failure hr hs ht =>
    have hs' := (hr.spares ha hc).trans
      ((e.takeStep_taken ht).spares hr.last_eq (not_carries hc ha hr hs))
    refine ⟨p, s, rfl, hs', ?_⟩
    rw [(e.takeStep_taken ht).mem_keys_iff hr.last_eq, hr.mem_keys_iff ha, ← hr.brings_iff ha hs]
    constructor
    · rintro (⟨i, -, h⟩ | h)
      · exact ⟨i, h⟩
      · exact ⟨k, h⟩
    · rintro ⟨i, h⟩
      obtain ⟨-, _, _, hi⟩ := h.reached
      rcases Nat.lt_or_eq_of_le (hr.le_of_failed hs ht hi) with hik | rfl
      · exact .inl ⟨i, hik, h⟩
      · exact .inr h

theorem kept_keys (e : Engine) (keys : List String) : e.Kept fun s => keys <+: s.keys where
  record _ _ h := h
  keep _ _ _ h := h.trans (List.prefix_append ..)
  peek _ _ h := h
  take _ _ h := h
  delete _ _ h := h
  purge _ h := h
  clear _ h := h

theorem kept_lifespan (e : Engine) (lifespan : Nat) :
    e.Kept fun s => s.store.lifespan = lifespan where
  record _ _ h := h
  keep _ _ _ h := h
  peek s key h := by
    unfold peek Store.get
    split
    · exact h
    · split
      · exact h
      · split
        · exact h
        · exact h
  take _ _ h := h
  delete _ _ h := h
  purge _ h := h
  clear _ h := h

/-- What is kept from the end of any one call on holds when the run ends. -/
theorem Kept.run_of_dispatch {P : Session → Prop} (hk : e.Kept P) (ha : e.Accepts batch)
    (hr : e.Reaches batch.steps s₀ n p s) (hs : batch.steps[n]? = some step)
    (hb : ¬ step.Barred p.history)
    (hd : P (e.dispatch step.name.text (e.argsFor p.history step)
      (n + 1 < batch.steps.length) s).2) :
    P (e.run batch s₀).2 := by
  refine hk.run_of_takeStep ha hr hs ?_
  rcases ht : e.takeStep (n + 1 < batch.steps.length) step p s with ⟨failure?, q, t⟩
  obtain ⟨hb', -⟩ | ⟨-, o, ho, -⟩ := (e.takeStep_taken ht).barred_or_dispatched hr.last_eq
  · exact absurd hb' hb
  · rwa [ho] at hd

/-- A key that comes with an outcome was in the reply of the tool, or the run has generated it. -/
theorem Brings.repliesWith (h : e.Brings batch s₀ i key) {minted : List String}
    (hm : (e.run batch s₀).2.keys = s₀.keys ++ minted) (hk : key ∉ minted) :
    e.RepliesWith batch s₀ i key := by
  obtain ⟨step, args, s, hd, ho⟩ := h
  obtain ⟨ha, hs, p, hr, hb, rfl⟩ := id hd
  obtain ⟨tool, ht⟩ := registered_of_accepts ha (List.mem_of_getElem? hs)
  refine ⟨step, _, s, tool, hd, ht, ?_⟩
  have he := (e.dispatch_registered (e.argsFor p.history step)
    (i + 1 < batch.steps.length) s ht).trans (invoke_eq ..)
  rw [he] at ho
  refine (e.settle_cacheKey tool _ _ _ ho).resolve_right fun hg => hk ?_
  -- Were the key generated, then after those of the sessions before the call, and the run would
  -- keep it to its end.
  rw [← he, keys_called] at hg
  obtain ⟨before, hbefore⟩ : s₀.keys <+: s.keys := (kept_keys e s₀.keys).reaches hr List.prefix_rfl
  obtain ⟨after, hafter⟩ : s.keys ++ [key] <+: (e.run batch s₀).2.keys :=
    (kept_keys e _).run_of_dispatch ha hr hs hb (hg ▸ List.prefix_rfl)
  rw [hm, ← hbefore, List.append_assoc, List.append_assoc] at hafter
  rw [← List.append_cancel_left hafter]
  simp

/-- What is left when a run has released its keys, if it is to do so. -/
def released (e : Engine) (p : Progress) (s : Session) : Session :=
  if e.config.cleanup then e.deleteAll p.keys s else s

theorem find?_released (p : Progress) (s : Session) (key : String) :
    (e.released p s).store.find? key =
      if e.config.cleanup = true ∧ key ∈ p.keys then none else s.store.find? key := by
  unfold released
  cases e.config.cleanup with
  | false => simp
  | true => simp [find?_deleteAll]

theorem find?_finish_eq_some_iff (p : Progress) (s : Session) :
    (e.finish p s).store.find? key = some item ↔ s.store.find? key = some item ∧
      (e.config.cleanup = true → key ∉ p.keys) ∧
      (e.finish p s).store.outlived (e.reading ((e.finish p s).readings - 1)) item = false := by
  have he : e.finish p s = (e.purge (e.released p s)).2 := rfl
  have ho : (e.finish p s).store.outlived (e.reading ((e.finish p s).readings - 1)) item =
      (e.released p s).store.outlived (e.now (e.released p s)) item := rfl
  rw [ho, he, find?_purge, Option.filter_eq_some_iff, Bool.not_eq_true',
    find?_released, ← and_assoc]
  simp [and_comm]

/-- The item under a key that no step names is left where it is by a run that does not generate the
key, if it has not outlived its lifespan when the run ends, and if, with cleanup, no outcome comes
with the key. An outcome that does has the key from the reply of its tool. -/
theorem retained_iff (e : Engine) (batch : Batch) (s s' : Session)
    (result : Except BatchError Report) (item : Item) (ha : e.Accepts batch)
    (h : e.run batch s = (result, s')) (hi : s.store.find? item.key = some item)
    (hf : ∃ minted, s'.keys = s.keys ++ minted ∧ item.key ∉ minted)
    (hc : ¬ e.Carries batch s item.key) :
    (s'.store.find? item.key = some item ↔
      s.store.outlived (e.reading (s'.readings - 1)) item = false ∧
      (e.config.cleanup = true → ∀ i, ¬ e.Brings batch s i item.key)) ∧
    ∀ i, e.Brings batch s i item.key → e.RepliesWith batch s i item.key := by
  obtain ⟨minted, hm, hk⟩ := hf
  have hl : s'.store.lifespan = s.store.lifespan := by
    have hr := (kept_lifespan e s.store.lifespan).run batch (s := s) rfl
    rwa [h] at hr
  have hr : (e.run batch s).2.keys = s.keys ++ minted := by rw [h, hm]
  refine ⟨?_, fun i hb => hb.repliesWith hr hk⟩
  obtain ⟨p, t, rfl, hsp, hb⟩ := (run_ends ha h).finished ha hc
  have ht : t.store.find? item.key = some item := by
    rw [hsp.find?_eq ((finish_quiet p t).keys.symm.trans hm) hk, hi]
  rw [find?_finish_eq_some_iff, Store.outlived_of_lifespan_eq hl, hb, not_exists]
  simp only [ht, true_and]
  exact and_comm

/-- A session in which trades were kept, under the first key that is made. -/
def keepingSession : Session :=
  ((rehearsal {} []).keep .searchTrades (.array [.string "t1", .string "t2"]) (.start {})).2

def keptItem : Item :=
  (rehearsal {} []).itemNow (.start {}) ((rehearsal {} []).nextKey (.start {}))
    (.array [.string "t1", .string "t2"])
    .searchTrades

theorem find?_keptItem : keepingSession.store.find? keptItem.key = some keptItem :=
  ((rehearsal {} []).find?_keep ..).trans (if_pos rfl)

def rehearsedRetention : Batch where
  steps := [{ name := .searchTrades, args := [] }, { name := .queryDatabase, args := [] }]

theorem retained_iff_rehearsed :
    let e := rehearsal {} [{ name := .searchTrades, large := some true },
      { name := .queryDatabase }]
    e.config.cleanup = true ∧ e.Accepts rehearsedRetention ∧
      ¬ e.Carries rehearsedRetention keepingSession keptItem.key ∧
      ∃ result s', e.run rehearsedRetention keepingSession = (result, s') ∧
        (∃ key, s'.keys = keepingSession.keys ++ [key] ∧ keptItem.key ≠ key) ∧
        keepingSession.store.find? keptItem.key = some keptItem ∧
          s'.store.find? keptItem.key = some keptItem := by
  intro e
  have ha : e.Accepts rehearsedRetention := rfl
  have hc : ¬ e.Carries rehearsedRetention keepingSession keptItem.key :=
    not_carries_of_args_nil (by simp [rehearsedRetention])
  have hk : (e.run rehearsedRetention keepingSession).2.keys =
      keepingSession.keys ++ ["fc_1_000000000"] := by
    decide +kernel
  have hne : keptItem.key ≠ "fc_1_000000000" := by decide +kernel
  have ho : keepingSession.store.outlived
      (e.reading ((e.run rehearsedRetention keepingSession).2.readings - 1)) keptItem = false := by
    decide +kernel
  rcases hr : e.run rehearsedRetention keepingSession with ⟨result, s'⟩
  rw [hr] at hk ho
  obtain ⟨hi, hb⟩ := retained_iff e rehearsedRetention keepingSession s' result keptItem ha
    hr find?_keptItem
    ⟨_, hk, by simpa using hne⟩ hc
  refine ⟨rfl, ha, hc, result, s', rfl, ⟨_, hk, hne⟩, find?_keptItem,
    hi.mpr ⟨ho, fun _ i hbi => ?_⟩⟩
  obtain ⟨step, args, s, tool, ⟨-, hs, -⟩, ht, hkey⟩ := hb i hbi
  have hm := List.mem_of_getElem? hs
  simp only [rehearsedRetention, List.mem_cons, List.not_mem_nil, or_false] at hm
  -- Both tools echo their arguments, which is no reply with a key.
  rcases hm with rfl | rfl
  · obtain rfl := Option.some.inj ht
    cases hkey
  · obtain rfl := Option.some.inj ht
    cases hkey

/-- An engine whose tool replies with a key that it was not given. -/
def namingEngine : Engine :=
  rehearsal {}
    [{ name := .queryDatabase,
       replies := [.give ((Outcome.ok .null).withCacheKey keptItem.key)] }]

/-- An item that is under a key before a run is lost, as a tool happens to reply with the key; no
step names it. -/
theorem named_item_lost :
    let batch : Batch := { steps := [{ name := .queryDatabase, args := [] }] }
    let s' := (namingEngine.run batch keepingSession).2
    namingEngine.Accepts batch ∧ keepingSession.store.find? keptItem.key = some keptItem ∧
      keepingSession.store.outlived (namingEngine.reading (s'.readings - 1)) keptItem = false ∧
      s'.keys = keepingSession.keys ∧ ¬ namingEngine.Carries batch keepingSession keptItem.key ∧
      s'.store.find? keptItem.key = none := by
  intro batch s'
  refine ⟨rfl, find?_keptItem, by decide +kernel, by decide +kernel,
    not_carries_of_args_nil (by simp [batch]), ?_⟩
  rw [← Option.isNone_iff_eq_none]
  decide +kernel

end Engine

end Toolflow
