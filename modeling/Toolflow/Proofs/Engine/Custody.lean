import Toolflow.Proofs.Directive.Keys
import Toolflow.Proofs.Engine.Retention

/-!
What a call does with the item under one key. If the key is among its arguments the item is gone
afterwards (`find?_dispatch_of_carried`), and otherwise it stays where it is
(`find?_dispatch_of_not_carried`). A result comes with a key if a copy of its data was put under
that key (`dispatch_copies`).
-/

namespace Toolflow

open Json Cache

/-- A call is given the key among its arguments; whether to defer is no argument of the tool. -/
def Carried (args : Members) (key : String) : Prop :=
  ∃ m ∈ args, m.1 ≠ deferArgument ∧ m.2 = .string key

instance (args : Members) (key : String) : Decidable (Carried args key) :=
  decidable_of_iff (∃ m ∈ args, m.1 ≠ deferArgument ∧ m.2.string? = some key)
    (by simp [Carried])

theorem carried_iff {args : Members} {key : String} :
    Carried args key ↔ ∃ m ∈ Members.erase args deferArgument, m.2 = .string key := by
  simp only [Carried, Members.erase, List.mem_filter, decide_eq_true_eq, and_assoc]

namespace Engine

section Keys

variable {e : Engine} {tool : Tool} {args : Members} {preserve : Bool} {s : Session} {key : String}
  {minted : List String} {name : ToolName}

theorem isCacheKey_nextKey (h : 0 ≤ (e.now s).time) : e.isCacheKey (e.nextKey s) = true :=
  hasKeyShape_iff.mpr (isKey_makeKey _ (Int.ediv_nonneg h (by decide)) _)

/-- A key that is among the arguments is used up, and one under which there is nothing stays so. -/
theorem find?_materialize_eq_none (hk : e.isCacheKey key = true) (tool : Tool)
    (h : s.store.find? key = none ∨ ∃ m ∈ args, m.2 = .string key) :
    (e.materialize tool args s).2.store.find? key = none := by
  rw [store_materialize, Store.find?_keep]
  cases hf : s.store.find? key with
  | none => rfl
  | some item =>
    obtain ⟨m, hm, hv⟩ := h.resolve_left (by simp [hf])
    have hn : e.names args item.key = true := by
      rw [Store.key_of_find? hf, names, hk, Bool.true_and, List.any_eq_true]
      exact ⟨m, hm, by simp [hv]⟩
    simp [Option.filter, hn]

theorem find?_dispatch_of_carried (ht : e.registry.get? name = some tool)
    (hk : e.isCacheKey key = true) (hc : Carried args key)
    (hm : (e.dispatch name.text args preserve s).2.keys = s.keys ++ minted) (hn : key ∉ minted) :
    (e.dispatch name.text args preserve s).2.store.find? key = none := by
  have hg : (e.called tool args s).store.find? key = none :=
    find?_materialize_eq_none hk tool (.inr (carried_iff.mp hc))
  rw [e.dispatch_registered args preserve s ht, invoke_eq] at hm ⊢
  rw [← e.keys_called tool args s] at hm
  rw [(e.settle_spares tool preserve _ _ _).find?_eq hm hn, hg]

theorem find?_dispatch_of_not_carried {name : String} (hc : ¬ Carried args key)
    (hm : (e.dispatch name args preserve s).2.keys = s.keys ++ minted) (hn : key ∉ minted) :
    (e.dispatch name args preserve s).2.store.find? key = s.store.find? key := by
  have hs : s.Spares key (e.dispatch name args preserve s).2 :=
    e.dispatch_spares preserve s name fun m hm hv => hc (carried_iff.mpr ⟨m, hm, hv⟩)
  exact hs.find?_eq hm hn

end Keys

section Copies

/-- The item is a copy of the data of an outcome, under the key that the outcome comes with. -/
structure Copies (item : Item) (name : ToolName) (o : Outcome) : Prop where
  key : o.cacheKey = some item.key
  data : o.data = some item.data
  producer : item.producer = name

/-- The item was made and put under a new key, at a reading that was taken from one session to the
other. -/
def MadeBetween (e : Engine) (s s' : Session) (item : Item) : Prop :=
  ∃ j, s.readings ≤ j ∧ j < s'.readings ∧ item.key = (e.reading j).key e.config.keyPrefix ∧
    item.stamp = (e.reading j).time ∧ item.putAt = (e.reading j).uptime

/-- The tools do not name keys in their replies. -/
def NamesNoKeys (e : Engine) : Prop :=
  ∀ tool ∈ e.registry.tools, ∀ calls args o, tool.respond calls args = .ok o → o.cacheKey = none

variable {e : Engine} {tool : Tool} {args : Members} {preserve : Bool} {s s' : Session}
  {name : ToolName} {o : Outcome}

theorem kept_readings (e : Engine) (n : Nat) : e.Kept fun s => n ≤ s.readings where
  record _ _ h := h
  keep _ _ _ h := Nat.le_succ_of_le h
  peek _ _ h := Nat.le_succ_of_le h
  take _ _ h := Nat.le_succ_of_le h
  delete _ _ h := Nat.le_succ_of_le h
  purge _ h := Nat.le_succ_of_le h
  clear _ h := Nat.le_succ_of_le h

theorem readings_le_called (e : Engine) (tool : Tool) (args : Members) (s : Session) :
    s.readings ≤ (e.called tool args s).readings :=
  (kept_readings e s.readings).record _ _
    ((kept_readings e s.readings).materialize tool _ (Nat.le_refl _))

theorem MadeBetween.mono {item : Item} {t t' : Session} (h : e.MadeBetween s s' item)
    (hs : t.readings ≤ s.readings) (hs' : s'.readings ≤ t'.readings) : e.MadeBetween t t' item := by
  obtain ⟨j, hj, hj', hst⟩ := h
  exact ⟨j, Nat.le_trans hs hj, Nat.lt_of_lt_of_le hj' hs', hst⟩

theorem cacheKey_replyOf (hn : e.NamesNoKeys) (ht : e.registry.get? name = some tool) :
    (Outcome.ofReply (e.replyOf tool args s)).cacheKey = none := by
  have hm : tool ∈ e.registry.tools := List.mem_of_find?_eq_some ht
  cases h : e.replyOf tool args s with
  | ok o => exact hn tool hm _ _ o h
  | error error => rfl

/-- A call that does not ask for deferral hands the reply on, alone or with the key of a copy. -/
theorem dispatch_cases (preserve : Bool) (s : Session) (ht : e.registry.get? name = some tool)
    (hd : asksToDefer args = false) :
    ((preserve = false ∨ e.largeData? tool (e.replyOf tool args s) = none) ∧
      e.dispatch name.text args preserve s =
        (.ofReply (e.replyOf tool args s), e.called tool args s)) ∨
    ∃ data, preserve = true ∧ e.largeData? tool (e.replyOf tool args s) = some data ∧
      e.dispatch name.text args preserve s =
        ((Outcome.ofReply (e.replyOf tool args s)).withCacheKey (e.nextKey (e.called tool args s)),
          (e.keep tool.name data (e.called tool args s)).2) := by
  rw [e.dispatch_registered args preserve s ht, invoke_eq, hd, settle_eq]
  cases e.largeData? tool (e.replyOf tool args s) with
  | none => exact .inl ⟨.inr rfl, rfl⟩
  | some data =>
    cases preserve with
    | false => exact .inl ⟨.inl rfl, rfl⟩
    | true => exact .inr ⟨data, rfl, rfl, rfl⟩

theorem keys_of_dispatch (hn : e.NamesNoKeys) (ht : e.registry.get? name = some tool)
    (hd : asksToDefer args = false)
    (h : e.dispatch name.text args preserve s = (o, s')) :
    s'.keys = s.keys ++ o.cacheKey.toList := by
  obtain ⟨-, hr⟩ | ⟨data, -, -, hr⟩ := e.dispatch_cases preserve s ht hd
  · cases h.symm.trans hr
    rw [keys_called, cacheKey_replyOf hn ht, Option.toList_none, List.append_nil]
  · cases h.symm.trans hr
    exact congrArg (· ++ _) (e.keys_called tool args s)

/-- A success comes with a key exactly if results are preserved and its data is large. -/
theorem cacheKey_isSome_iff (hn : e.NamesNoKeys) (ht : e.registry.get? name = some tool)
    (hd : asksToDefer args = false) (h : e.dispatch name.text args preserve s = (o, s'))
    (ho : o.success = true) :
    (∃ key, o.cacheKey = some key) ↔
      preserve = true ∧ ∃ data, o.data = some data ∧
        tool.isLarge data e.config.largeThreshold.toNat = true := by
  obtain ⟨hp, hr⟩ | ⟨data, hp, hl, hr⟩ := e.dispatch_cases preserve s ht hd
  · cases h.symm.trans hr
    rw [cacheKey_replyOf hn ht]
    refine ⟨nofun, fun ⟨hp', data, hdata, hlarge⟩ => ?_⟩
    have hl := e.largeData?_eq_some_iff.mpr ⟨ho, hdata, hlarge⟩
    rw [hp', hl] at hp
    simp at hp
  · cases h.symm.trans hr
    obtain ⟨-, hdata, hlarge⟩ := e.largeData?_eq_some_iff.mp hl
    exact ⟨fun _ => ⟨hp, data, hdata, hlarge⟩, fun _ => ⟨_, rfl⟩⟩

/-- A result that comes with a key was copied: the copy is under that key when the call is over. -/
theorem dispatch_copies (hn : e.NamesNoKeys) (ht : e.registry.get? name = some tool)
    (hd : asksToDefer args = false) (h : e.dispatch name.text args preserve s = (o, s'))
    {key : String} (hk : o.cacheKey = some key) :
    ∃ item, item.key = key ∧ Copies item name o ∧ e.MadeBetween s s' item ∧
      s'.store.find? key = some item := by
  obtain ⟨-, hr⟩ | ⟨data, -, hl, hr⟩ := e.dispatch_cases preserve s ht hd
  · cases h.symm.trans hr
    rw [cacheKey_replyOf hn ht] at hk
    cases hk
  · cases h.symm.trans hr
    obtain ⟨-, hdata, -⟩ := e.largeData?_eq_some_iff.mp hl
    have hs : s.readings ≤ (e.called tool args s).readings := readings_le_called ..
    refine ⟨e.itemNow (e.called tool args s) (e.nextKey (e.called tool args s)) data tool.name,
      Option.some.inj hk, ?_, ?_, ?_⟩
    · exact ⟨rfl, hdata, Registry.name_of_get? ht⟩
    · exact ⟨(e.called tool args s).readings, hs, Nat.lt_succ_self _, rfl, rfl, rfl⟩
    · rw [← Option.some.inj hk]
      simp

end Copies

end Engine

end Toolflow
