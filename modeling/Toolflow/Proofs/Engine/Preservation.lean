import Toolflow.Proofs.Engine.Custody
import Toolflow.Proofs.Engine.Delivery

/-!
What becomes of the copies of results. A large result of a step that is not the last one comes with
the key of a copy, and the copy stays where it is until a later call is given its key
(`Reaches.accounted`). When nothing is released or expires at the end of a run, the copies are
retrievable after it. Main statement: `preserved_retrievable`.
-/

namespace Toolflow

open Json Cache

namespace History

/-- The keys that the results came with, in order. -/
def cacheKeys (history : History) : List String :=
  history.filterMap fun entry => entry.outcome.cacheKey

/-- A call made after the entry at a position was given the key. -/
def CarriedAfter (history : History) (i : Nat) (key : String) : Prop :=
  ∃ entry ∈ history.drop (i + 1), entry.skipped = false ∧ Carried entry.args key

instance (history : History) (i : Nat) (key : String) : Decidable (history.CarriedAfter i key) :=
  inferInstanceAs (Decidable
    (∃ entry ∈ history.drop (i + 1), entry.skipped = false ∧ Carried entry.args key))

variable {history : History} {entry x : Entry} {i : Nat} {key : String}

theorem cacheKeys_append (history : History) (x : Entry) :
    cacheKeys (history ++ [x]) = cacheKeys history ++ x.outcome.cacheKey.toList := by
  cases h : x.outcome.cacheKey <;> simp [cacheKeys, h]

theorem mem_cacheKeys (h : history[i]? = some entry) (hk : entry.outcome.cacheKey = some key) :
    key ∈ cacheKeys history :=
  List.mem_filterMap.mpr ⟨entry, List.mem_of_getElem? h, hk⟩

theorem getElem?_append_cases (h : (history ++ [x])[i]? = some entry) :
    i < history.length ∧ history[i]? = some entry ∨ i = history.length ∧ entry = x := by
  by_cases hi : i < history.length
  · rw [List.getElem?_append_left hi] at h
    exact .inl ⟨hi, h⟩
  · have hl := (List.getElem?_eq_some_iff.mp h).1
    rw [List.length_append, List.length_singleton] at hl
    obtain rfl : i = history.length := by omega
    exact .inr ⟨rfl, by simpa using h.symm⟩

theorem carriedAfter_append (hi : i < history.length) : CarriedAfter (history ++ [x]) i key ↔
    CarriedAfter history i key ∨ x.skipped = false ∧ Carried x.args key := by
  rw [CarriedAfter, List.drop_append_of_le_length hi]
  simp only [List.mem_append, List.mem_singleton, or_and_right, exists_or,
    exists_eq_left, CarriedAfter]

theorem not_carriedAfter_length (history : History) (x : Entry) (key : String) :
    ¬ CarriedAfter (history ++ [x]) history.length key := by
  rintro ⟨entry, he, -⟩
  rw [List.drop_eq_nil_of_le (by simp)] at he
  cases he

end History

namespace Engine

/-- The item is the copy of the result at a position of a history, and it is there unless a call
since has been given its key. -/
structure Accounted (e : Engine) (s₀ s : Session) (history : History) (i : Nat) (entry : Entry)
    (item : Item) : Prop where
  copies : Copies item entry.name entry.outcome
  made : e.MadeBetween s₀ s item
  kept : ¬ history.CarriedAfter i item.key → s.store.find? item.key = some item
  used : history.CarriedAfter i item.key → s.store.find? item.key = none

/-- Every result that came with a key has its copy. -/
def AllAccounted (e : Engine) (s₀ s : Session) (history : History) : Prop :=
  ∀ i entry key, history[i]? = some entry → entry.outcome.cacheKey = some key →
    ∃ item, item.key = key ∧ e.Accounted s₀ s history i entry item

/-- The clock stands at or after the start of 1970. -/
def Started (e : Engine) : Prop :=
  ∀ n, 0 ≤ (e.reading n).time

/-- What is put from one session to the other has not expired by then, nor at the next reading. -/
def NothingExpires (e : Engine) (s s' : Session) : Prop :=
  ∀ j k, s.readings ≤ j → j ≤ k → k ≤ s'.readings →
    (e.reading k).uptime - (e.reading j).uptime < s.store.lifespan ∧
      (e.reading k).time - (e.reading j).time ≤ s.store.lifespan

/-- A result comes with a key exactly if more steps come after it and its tool deems its data
large. -/
def KeyedIfLarge (e : Engine) (more : Bool) (entry : Entry) : Prop :=
  ∃ tool, e.registry.get? entry.name = some tool ∧ ((∃ key, entry.outcome.cacheKey = some key) ↔
    more = true ∧ ∃ data, entry.outcome.data = some data ∧
      tool.isLarge data e.config.largeThreshold.toNat = true)

variable {e : Engine} {batch : Batch} {s₀ s s' : Session} {n i : Nat} {p p' : Progress}
  {step : Step} {entry x : Entry} {item : Item} {history : History} {tool : Tool} {preserve : Bool}
  {o : Outcome}

theorem MadeBetween.isCacheKey (h : e.MadeBetween s s' item) (hc : e.Started) :
    e.isCacheKey item.key = true := by
  obtain ⟨j, -, -, hk, -⟩ := h
  rw [hk]
  exact hasKeyShape_iff.mpr (isKey_makeKey _ (Int.ediv_nonneg (hc j) (by decide)) _)

theorem Accounted.passedOver (h : e.Accounted s₀ s history i entry item) (hi : i < history.length)
    (hx : x.skipped = true) : e.Accounted s₀ s (history ++ [x]) i entry item where
  copies := h.copies
  made := h.made
  kept := by
    rw [History.carriedAfter_append hi, hx]
    simpa using h.kept
  used := by
    rw [History.carriedAfter_append hi, hx]
    simpa using h.used

theorem Accounted.executed (h : e.Accounted s₀ s history i entry item) (hi : i < history.length)
    (hk : e.isCacheKey item.key = true) (hx : x.skipped = false)
    (ht : e.registry.get? x.name = some tool)
    (hd : e.dispatch x.name.text x.args preserve s = (o, s')) {minted : List String}
    (hm : s'.keys = s.keys ++ minted)
    (hn : item.key ∉ minted) : e.Accounted s₀ s' (history ++ [x]) i entry item := by
  obtain rfl : (e.dispatch x.name.text x.args preserve s).2 = s' := by rw [hd]
  have hr : s.readings ≤ (e.dispatch x.name.text x.args preserve s).2.readings :=
    (kept_readings e s.readings).dispatch _ _ _ (Nat.le_refl _)
  by_cases hc : Carried x.args item.key
  · have hf := find?_dispatch_of_carried ht hk hc hm hn
    refine ⟨h.copies, h.made.mono (Nat.le_refl _) hr, fun hno => ?_, fun _ => hf⟩
    exact absurd ((History.carriedAfter_append hi).mpr (.inr ⟨hx, hc⟩)) hno
  · have hf := find?_dispatch_of_not_carried hc hm hn
    refine ⟨h.copies, h.made.mono (Nat.le_refl _) hr, ?_, ?_⟩
    · rw [History.carriedAfter_append hi, hf]
      exact fun hno => h.kept fun hca => hno (.inl hca)
    · rw [History.carriedAfter_append hi, hf]
      exact fun hca => h.used (hca.resolve_right fun hca => hc hca.2)

/-- A step of a batch that never asks for deferral is passed over, or its tool is called and
succeeds. -/
theorem Reaches.next_cases (ha : e.Accepts batch) (hd : e.NeverDefers batch s₀)
    (h : e.Reaches batch.steps s₀ n p s) (hs : batch.steps[n]? = some step)
    (ht : e.takeStep preserve step p s = (none, p', s')) :
    (∃ x : Entry, x.skipped = true ∧ x.outcome.cacheKey = none ∧
      p'.history = p.history ++ [x] ∧ s' = s) ∨
    ∃ (x : Entry) (tool : Tool), x.skipped = false ∧ p'.history = p.history ++ [x] ∧
      e.registry.get? x.name = some tool ∧ asksToDefer x.args = false ∧
      e.dispatch x.name.text x.args preserve s = (x.outcome, s') ∧ x.outcome.success = true := by
  cases e.takeStep_taken ht with
  | passedOver => exact .inl ⟨_, rfl, rfl, rfl, rfl⟩
  | executed hp hdisp ho =>
    obtain ⟨tool, htool⟩ := registered_of_accepts ha (List.mem_of_getElem? hs)
    have hdefer := asksToDefer_of_neverDefers hd ha h hs (not_barred h.last_eq hp)
    exact .inr ⟨_, tool, rfl, rfl, htool, hdefer, hdisp,
      ((StepFailure.of?_eq_none_iff _ _).mp ho).1⟩

/-- The keys that a run generates are those that its results come with. -/
theorem Reaches.keys_eq (ha : e.Accepts batch) (hd : e.NeverDefers batch s₀) (hn : e.NamesNoKeys)
    (h : e.Reaches batch.steps s₀ n p s) : s.keys = s₀.keys ++ p.history.cacheKeys := by
  induction h with
  | start => exact (List.append_nil _).symm
  | next h hs ht ih =>
    obtain ⟨x, -, hk, hh, rfl⟩ | ⟨x, tool, -, hh, htool, hdefer, hdisp, -⟩ :=
      h.next_cases ha hd hs ht
    · rw [hh, History.cacheKeys_append, hk, Option.toList_none, List.append_nil, ih]
    · rw [hh, History.cacheKeys_append, keys_of_dispatch hn htool hdefer hdisp, ih,
        List.append_assoc]

theorem Reaches.keyedIfLarge (ha : e.Accepts batch) (hd : e.NeverDefers batch s₀)
    (hn : e.NamesNoKeys) (h : e.Reaches batch.steps s₀ n p s) : ∀ i entry,
    p.history[i]? = some entry → entry.skipped = false →
      e.KeyedIfLarge (i + 1 < batch.steps.length) entry := by
  induction h with
  | start =>
    intro i entry hi
    cases List.getElem?_nil.symm.trans hi
  | next h hs ht ih =>
    intro i entry hi hskip
    obtain ⟨x, hx, -, hh, rfl⟩ | ⟨x, tool, -, hh, htool, hdefer, hdisp, ho⟩ :=
      h.next_cases ha hd hs ht
    · rw [hh] at hi
      obtain ⟨-, hi⟩ | ⟨-, rfl⟩ := History.getElem?_append_cases hi
      · exact ih i entry hi hskip
      · rw [hx] at hskip
        cases hskip
    · rw [hh] at hi
      obtain ⟨-, hi⟩ | ⟨rfl, rfl⟩ := History.getElem?_append_cases hi
      · exact ih i entry hi hskip
      · rw [h.length_history]
        exact ⟨tool, htool, cacheKey_isSome_iff hn htool hdefer hdisp ho⟩

theorem AllAccounted.executed (h : e.AllAccounted s₀ s history) (hc : e.Started)
    (hn : e.NamesNoKeys) (hr : s₀.readings ≤ s.readings) (hx : x.skipped = false)
    (ht : e.registry.get? x.name = some tool) (hdefer : asksToDefer x.args = false)
    (hd : e.dispatch x.name.text x.args preserve s = (x.outcome, s'))
    (hnodup : (history.cacheKeys ++ x.outcome.cacheKey.toList).Nodup) :
    e.AllAccounted s₀ s' (history ++ [x]) := by
  intro i entry key hi hk
  obtain ⟨hlt, hi⟩ | ⟨rfl, rfl⟩ := History.getElem?_append_cases hi
  · obtain ⟨item, rfl, hacc⟩ := h i entry key hi hk
    have hfresh : item.key ∉ x.outcome.cacheKey.toList := fun hm =>
      (List.nodup_append.mp hnodup).2.2 _ (History.mem_cacheKeys hi hk) _ hm rfl
    exact ⟨item, rfl, hacc.executed hlt (hacc.made.isCacheKey hc) hx ht hd
      (keys_of_dispatch hn ht hdefer hd) hfresh⟩
  · obtain ⟨item, hkey, hcopies, hmade, hf⟩ := dispatch_copies hn ht hdefer hd hk
    refine ⟨item, hkey, hcopies, hmade.mono hr (Nat.le_refl _),
      fun _ => by rw [hkey]; exact hf, fun hca => ?_⟩
    exact absurd hca (History.not_carriedAfter_length _ _ _)

theorem Reaches.accounted (ha : e.Accepts batch) (hd : e.NeverDefers batch s₀) (hc : e.Started)
    (hn : e.NamesNoKeys) (h : e.Reaches batch.steps s₀ n p s)
    (hnodup : p.history.cacheKeys.Nodup) : e.AllAccounted s₀ s p.history := by
  induction h with
  | start =>
    intro i entry key hi
    cases List.getElem?_nil.symm.trans hi
  | next h hs ht ih =>
    obtain ⟨x, hx, hk, hh, rfl⟩ | ⟨x, tool, hx, hh, htool, hdefer, hdisp, -⟩ :=
      h.next_cases ha hd hs ht
    · rw [hh, History.cacheKeys_append, hk, Option.toList_none, List.append_nil] at hnodup
      rw [hh]
      intro i entry key hi hkey
      obtain ⟨hlt, hi⟩ | ⟨-, rfl⟩ := History.getElem?_append_cases hi
      · obtain ⟨item, hik, hacc⟩ := ih hnodup i entry key hi hkey
        exact ⟨item, hik, hacc.passedOver hlt hx⟩
      · rw [hk] at hkey
        cases hkey
    · rw [hh, History.cacheKeys_append] at hnodup
      rw [hh]
      have hr := (kept_readings e s₀.readings).reaches h (Nat.le_refl _)
      exact (ih (List.nodup_append.mp hnodup).1).executed hc hn hr hx htool hdefer hdisp hnodup

theorem MadeBetween.unexpired {t : Session} (h : e.MadeBetween s t item)
    (hx : e.NothingExpires s s') {store : Store} (hl : store.lifespan = s.store.lifespan) {k : Nat}
    (hk : t.readings ≤ k) (hk' : k ≤ s'.readings) :
    store.outlived (e.reading k) item = false ∧ store.stale (e.reading k) item = false := by
  obtain ⟨j, hj, hjt, -, hstamp, hput⟩ := h
  obtain ⟨hu, ht⟩ := hx j k hj (Nat.le_trans (Nat.le_of_lt hjt) hk) hk'
  simp only [Store.outlived, Store.stale, hl, hstamp, hput, decide_eq_false_iff_not,
    Nat.not_le, Int.not_lt]
  exact ⟨hu, ht⟩

/-- When a run completes that releases nothing and in which nothing expires, the keys of the copies
are new and all different. A copy is retrievable after the run unless a later call was given its
key; then nothing is under the key. -/
theorem preserved_retrievable (e : Engine) (batch : Batch) (s s' : Session) (report : Report)
    (h : e.run batch s = (.ok report, s')) (hoff : e.config.cleanup = false)
    (hx : e.NothingExpires s s')
    (hf : ∃ minted, s'.keys = s.keys ++ minted ∧ minted.Nodup ∧
      ∀ key ∈ minted, s.store.find? key = none)
    (hc : e.Started) (hn : e.NamesNoKeys) (hd : e.NeverDefers batch s) :
    (∀ i entry, report.entries[i]? = some entry → entry.skipped = false →
      e.KeyedIfLarge (i + 1 < batch.steps.length) entry) ∧
    report.entries.cacheKeys.Nodup ∧ (∀ key ∈ report.entries.cacheKeys, s.store.find? key = none) ∧
    ∀ i entry key, report.entries[i]? = some entry → entry.outcome.cacheKey = some key →
      ∃ item, item.key = key ∧ Copies item entry.name entry.outcome ∧
        (¬ report.entries.CarriedAfter i key → e.Retrievable s' item 1) ∧
        (report.entries.CarriedAfter i key → s'.store.find? key = none) := by
  have ha : e.Accepts batch := accepts_of_ok h
  cases run_ends ha h with
  | @completed p t hr =>
    obtain ⟨minted, hm, hnodup, hnew⟩ := hf
    have hkeys : minted = p.history.cacheKeys := by
      have hq : t.Quiet (e.finish p t) := finish_quiet p t
      rw [hq.keys, hr.keys_eq ha hd hn] at hm
      exact (List.append_cancel_left hm).symm
    subst hkeys
    have hlife : t.store.lifespan = s.store.lifespan :=
      (kept_lifespan e s.store.lifespan).reaches hr rfl
    have hp : e.finish p t = (e.purge t).2 := by
      rw [finish, hoff]
      rfl
    rw [hp] at hx ⊢
    refine ⟨hr.keyedIfLarge ha hd hn, hnodup, hnew, ?_⟩
    intro i entry key hi hkey
    obtain ⟨item, rfl, hacc⟩ := hr.accounted ha hd hc hn hnodup i entry key hi hkey
    have hlast (k : Nat) (hk : t.readings ≤ k) (hk' : k ≤ t.readings + 1) :
        t.store.outlived (e.reading k) item = false ∧ t.store.stale (e.reading k) item = false :=
      hacc.made.unexpired hx hlife hk hk'
    refine ⟨item, rfl, hacc.copies, fun hno => ⟨?_, ?_⟩, fun hca => ?_⟩
    · rw [find?_purge, hacc.kept hno]
      simp [Option.filter, now, (hlast t.readings (Nat.le_refl _) (Nat.le_succ _)).1]
    · intro j hj
      obtain rfl : j = 0 := Nat.lt_one_iff.mp hj
      exact hlast (t.readings + 1) (Nat.le_succ _) (Nat.le_refl _)
    · rw [find?_purge, hacc.used hca]
      rfl

/-- An engine that releases nothing, with a search that finds two trades and deems them many. -/
def preservationEngine : Engine :=
  rehearsal { cleanup := false }
    [{ name := .searchTrades, replies := [.give (.ok (.array [.string "t1", .string "t2"]))],
       large := some true },
     { name := .queryDatabase }]

/-- Two searches, and a step that is given the key of the first. -/
def rehearsedPreservation : Batch where
  steps := [{ name := .searchTrades, args := [] }, { name := .searchTrades, args := [] },
    { name := .queryDatabase, args := [("trades", .string "EXTRACT_0.cacheKey")] }]

theorem preservationEngine_namesNoKeys : preservationEngine.NamesNoKeys := by
  intro tool hm calls args o ho
  obtain rfl | rfl := List.mem_pair.mp hm
  · have hr (n : Nat) : [Reply.give (.ok (.array [.string "t1", .string "t2"]))][n]?.or
        (some (.give (.ok (.array [.string "t1", .string "t2"])))) =
          some (.give (.ok (.array [.string "t1", .string "t2"]))) := by
      cases n <;> rfl
    simp only [Script.tool, Script.reply, List.getLast?_singleton, hr, Option.getD_some,
      Reply.answer] at ho
    obtain rfl := Except.ok.inj ho
    rfl
  · obtain rfl := Except.ok.inj ho
    rfl

theorem preservationEngine_nothingExpires {s : Session} (h : s.readings ≤ 4) :
    preservationEngine.NothingExpires (.start {}) s := by
  intro j k _ _ hk
  have hl : (Session.start {}).store.lifespan = 1800000000000 := rfl
  have hu (n : Nat) : (preservationEngine.reading n).uptime = n * 1000000 := rfl
  have ht (n : Nat) : (preservationEngine.reading n).time = n * 1000000 := rfl
  rw [hl, hu, hu, ht, ht]
  omega

theorem preserved_retrievable_rehearsed :
    let e := preservationEngine
    let s := Session.start {}
    e.Started ∧ e.NamesNoKeys ∧ e.NeverDefers rehearsedPreservation s ∧
      ∃ report s', e.run rehearsedPreservation s = (.ok report, s') ∧ e.NothingExpires s s' ∧
        (∃ entry, report.entries[0]? = some entry ∧ entry.outcome.cacheKey = some "fc_0_000000000" ∧
          report.entries.CarriedAfter 0 "fc_0_000000000" ∧ s'.store.find? "fc_0_000000000" = none) ∧
        ∃ entry item, report.entries[1]? = some entry ∧ ¬ report.entries.CarriedAfter 1 item.key ∧
          Copies item entry.name entry.outcome ∧ e.Retrievable s' item 1 := by
  intro e s
  have hc : e.Started := fun n => Int.mul_nonneg (Int.natCast_nonneg n) (by decide)
  have hn : e.NamesNoKeys := preservationEngine_namesNoKeys
  have hd : e.NeverDefers rehearsedPreservation s := neverDefers_of_notMem (by decide)
  have hk : ((e.run rehearsedPreservation s).1.toOption.map fun report =>
        report.entries.map fun entry => entry.outcome.cacheKey) =
          some [some "fc_0_000000000", some "fc_1_000000000", none] ∧
      ((e.run rehearsedPreservation s).1.toOption.map fun report =>
        (decide (report.entries.CarriedAfter 0 "fc_0_000000000"),
          decide (report.entries.CarriedAfter 1 "fc_1_000000000"))) = some (true, false) ∧
      (e.run rehearsedPreservation s).2.keys = ["fc_0_000000000", "fc_1_000000000"] ∧
      (e.run rehearsedPreservation s).2.readings = 4 := by decide +kernel
  rcases hr : e.run rehearsedPreservation s with ⟨error | report, s'⟩
  · rw [hr] at hk
    cases hk.1
  · rw [hr] at hk
    obtain ⟨hkeys, hcarried, hminted, hreadings⟩ := hk
    have hkeys : report.entries.map (fun entry => entry.outcome.cacheKey) =
        [some "fc_0_000000000", some "fc_1_000000000", none] := Option.some.inj hkeys
    have hkey (i : Nat) : report.entries[i]?.map (fun entry => entry.outcome.cacheKey) =
        [some "fc_0_000000000", some "fc_1_000000000", none][i]? := by
      rw [← List.getElem?_map, hkeys]
    obtain ⟨hused, hkept⟩ := Prod.mk.inj (Option.some.inj hcarried)
    have hused := of_decide_eq_true hused
    have hkept := of_decide_eq_false hkept
    have hx : e.NothingExpires s s' := preservationEngine_nothingExpires (Nat.le_of_eq hreadings)
    have hf : ∃ minted, s'.keys = s.keys ++ minted ∧ minted.Nodup ∧
        ∀ key ∈ minted, s.store.find? key = none :=
      ⟨_, hminted, by decide, fun _ _ => rfl⟩
    obtain ⟨-, -, -, h⟩ := preserved_retrievable e _ s s' report hr rfl hx hf hc hn hd
    refine ⟨hc, hn, hd, report, s', rfl, hx, ?_, ?_⟩
    · obtain ⟨entry, he, hk⟩ := Option.map_eq_some_iff.mp (hkey 0)
      obtain ⟨item, -, -, -, hnone⟩ := h 0 entry _ he hk
      exact ⟨entry, he, hk, hused, hnone hused⟩
    · obtain ⟨entry, he, hk⟩ := Option.map_eq_some_iff.mp (hkey 1)
      obtain ⟨item, hi, hcopies, hr, -⟩ := h 1 entry _ he hk
      exact ⟨entry, item, he, hi ▸ hkept, hcopies, hr hkept⟩

end Engine

end Toolflow
