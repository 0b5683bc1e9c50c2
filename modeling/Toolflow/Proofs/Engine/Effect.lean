import Toolflow.Proofs.Engine.Handover

/-!
All that a call does. The tool receives its arguments as they are, but for those that are keys: each
of these gives way to what was kept under it before the call, or to nothing if an argument before
has used it up (`args_materialize`). The store loses what is under the keys among the arguments
(`store_materialize`) and gains what is kept of the reply. Main statement: `dispatch_effect`.
-/

namespace Toolflow

open Json Cache

namespace Engine

/-- No item of the store expires at the next `n` readings. -/
def Unexpired (e : Engine) (s : Session) (n : Nat) : Prop :=
  ∀ item ∈ s.store.items, ∀ j < n, e.LiveAt s j item

instance (e : Engine) (s : Session) (n : Nat) : Decidable (e.Unexpired s n) :=
  inferInstanceAs (Decidable (∀ item ∈ s.store.items, ∀ j < n, e.LiveAt s j item))

/-- What a tool receives for an argument of a call, if the store was this before the call and these
are the arguments before. -/
def received (e : Engine) (tool : Tool) (store : Store) (before : Members) (argument : String)
    (v : Value) : Value :=
  match v.string?.filter e.isCacheKey with
  | none => v
  | some key =>
    let shape := tool.shape argument
    if e.names before key then shape.fallback
    else (store.find? key).elim shape.fallback fun item => shape.unwrap item.data

/-- The reply is a success with large data, and it was asked to keep that. -/
structure Keeps (e : Engine) (tool : Tool) (asked : Bool) (reply : Except EngineError Outcome)
    (data : Value) : Prop where
  asked : asked = true
  success : (Outcome.ofReply reply).success = true
  data_eq : (Outcome.ofReply reply).data = some data
  large : tool.isLarge data e.config.largeThreshold.toNat = true

variable {e : Engine} {tool : Tool} {args : Members} {preserve : Bool} {s : Session} {n : Nat}

theorem received_key {key : String} (h : e.isCacheKey key = true) (store : Store) (before : Members)
    (argument : String) :
    e.received tool store before argument (.string key) =
      if e.names before key then (tool.shape argument).fallback
      else (store.find? key).elim (tool.shape argument).fallback fun item =>
        (tool.shape argument).unwrap item.data := by
  simp [received, Option.filter, h]

theorem find?_keep_names (store : Store) (m : String × Value) (key : String) :
    (store.keep fun item => !e.names [m] item.key).find? key =
      if e.names [m] key then none else store.find? key := by
  rw [Store.find?_keep]
  cases hf : store.find? key with
  | none => simp
  | some item => cases hn : e.names [m] key <;> simp [Option.filter, Store.key_of_find? hf, hn]

/-- What an argument has used up is as good as not there for the arguments after it. -/
theorem received_keep (m : String × Value) (store : Store) (before : Members)
    (argument : String) (v : Value) :
    e.received tool (store.keep fun item => !e.names [m] item.key) before argument v =
      e.received tool store (m :: before) argument v := by
  unfold received
  cases v.string?.filter e.isCacheKey with
  | none => rfl
  | some key =>
    simp only [e.names_cons m before, find?_keep_names]
    cases e.names [m] key <;> cases e.names before key <;> simp

theorem Unexpired.take_fst (h : e.Unexpired s (n + 1)) (key : String) :
    (e.take key s).1 = s.store.find? key := by
  cases hf : s.store.find? key with
  | none => exact congrArg (Option.filter _) hf
  | some item =>
    obtain rfl := Store.key_of_find? hf
    exact (h item (Store.mem_of_find? hf) 0 (Nat.succ_pos n)).take_fst hf

theorem Unexpired.materializeArgument (h : e.Unexpired s (n + 1)) (shape : Shape)
    (m : String × Value) :
    e.Unexpired (e.materializeArgument shape m.2 s).2 n := by
  intro item hi j hj
  rw [store_materializeArgument] at hi
  apply (liveAt_materializeArgument shape).mpr
  apply h item (List.mem_of_mem_filter hi)
  split <;> omega

theorem Unexpired.materializeArgument_fst (h : e.Unexpired s (n + 1))
    (argument : String) (v : Value) :
    (e.materializeArgument (tool.shape argument) v s).1 =
      e.received tool s.store [] argument v := by
  cases v with
  | string text =>
    cases hk : e.isCacheKey text with
    | true =>
      have hn : e.names [] text = false := Bool.and_false _
      rw [received_key hk, hn]
      simp only [Engine.materializeArgument, hk, if_true, h.take_fst, Bool.false_eq_true, if_false]
    | false => simp [Engine.materializeArgument, received, Option.filter, hk]
  | null | bool | number | array | object => rfl

/-- An argument is looked up in what those before it have left, which is the store before the call
without what they name. -/
theorem args_materialize (h : e.Unexpired s args.length) : (e.materialize tool args s).1 =
    args.mapIdx fun i m => (m.1, e.received tool s.store (args.take i) m.1 m.2) := by
  induction args generalizing s with
  | nil => rfl
  | cons m rest ih =>
    rw [List.length_cons] at h
    rw [materialize, List.mapIdx_cons, ih (h.materializeArgument (tool.shape m.1) m),
      h.materializeArgument_fst m.1 m.2]
    simp only [store_materializeArgument, received_keep, List.take_zero, List.take_succ_cons]

theorem keeps_iff {asked : Bool} {reply : Except EngineError Outcome} {data : Value} :
    e.Keeps tool asked reply data ↔ asked = true ∧ e.largeData? tool reply = some data := by
  rw [largeData?_eq_some_iff]
  exact ⟨fun h => ⟨h.asked, h.success, h.data_eq, h.large⟩, fun h => ⟨h.1, h.2.1, h.2.2.1, h.2.2.2⟩⟩

section Settling

variable {defer : Bool} {reply : Except EngineError Outcome} {data : Value}

theorem settle_of_keeps (s : Session) (h : e.Keeps tool (defer || preserve) reply data) :
    (e.settle tool defer preserve reply s).2 = (e.keep tool.name data s).2 := by
  obtain ⟨ha, hl⟩ := keeps_iff.mp h
  rw [settle_eq, hl]
  cases defer with
  | true => rfl
  | false =>
    rw [Bool.false_or] at ha
    rw [ha]
    rfl

theorem settle_of_not_keeps (s : Session)
    (h : ∀ data, ¬ e.Keeps tool (defer || preserve) reply data) :
    (e.settle tool defer preserve reply s).2 = s := by
  rw [settle_eq]
  cases hl : e.largeData? tool reply with
  | none => rfl
  | some data =>
    have ha : (defer || preserve) = false := by
      rw [← Bool.not_eq_true]
      exact fun ha => h data (keeps_iff.mpr ⟨ha, hl⟩)
    obtain ⟨rfl, rfl⟩ := Bool.or_eq_false_iff.mp ha
    rfl

end Settling

/-- What a call does if no item expires during it and the key that is generated is not in use. The
tool receives its arguments without the request for deferral, with payloads in place of keys. The
store loses what is under these keys, and gains one item at most: the data of the reply, if that is
to be kept. Where there is no tool of the name, nothing happens. -/
theorem dispatch_effect (e : Engine) (name : String) (args : Members) (preserve : Bool)
    (s : Session) :
    let given := Members.erase args deferArgument
    let r := e.dispatch name args preserve s
    (∀ tool, (ToolName.ofText? name).bind e.registry.get? = some tool → e.Unexpired s given.length →
      s.store.find? (e.nextKey (e.called tool args s)) = none →
      let received := given.mapIdx fun i m => (m.1, e.received tool s.store (given.take i) m.1 m.2)
      let reply := tool.respond s.calls received
      let left := s.store.items.filter fun item => !e.names given item.key
      r.2.calls = s.calls ++ [⟨tool.name, received⟩] ∧
      (∀ data, e.Keeps tool (asksToDefer args || preserve) reply data →
        ∃ item, item.key = e.nextKey (e.called tool args s) ∧ item.data = data ∧
          item.producer = tool.name ∧
          r.2.store.items = left ++ [item]) ∧
      ((∀ data, ¬ e.Keeps tool (asksToDefer args || preserve) reply data) →
        r.2.store.items = left)) ∧
    ((ToolName.ofText? name).bind e.registry.get? = none → r.2 = s) := by
  intro given r
  constructor
  · intro tool ht hu hf received reply left
    have hcall : e.callOf tool args s = ⟨tool.name, received⟩ := by rw [callOf, args_materialize hu]
    have hreply : e.replyOf tool args s = reply := by rw [replyOf, hcall]
    have hr : r = e.settle tool (asksToDefer args) preserve reply (e.called tool args s) := by
      rw [← hreply, ← invoke_eq]
      simp only [r, dispatch, ht]
    have hstore : (e.called tool args s).store = s.store.keep fun item => !e.names given item.key :=
      e.store_materialize tool given s
    rw [hr]
    refine ⟨?_, fun data hk => ?_, fun hn => ?_⟩
    · rw [calls_settle, calls_called, hcall]
    · have hnew : (e.called tool args s).store.find? (e.nextKey (e.called tool args s)) = none := by
        rw [hstore, Store.find?_keep, hf]
        rfl
      rw [settle_of_keeps _ hk]
      refine ⟨e.itemNow (e.called tool args s) _ data tool.name, rfl, rfl, rfl, ?_⟩
      exact (Store.items_put hnew).trans (congrArg (fun t : Store => t.items ++ _) hstore)
    · rw [settle_of_not_keeps _ hn, hstore]
      rfl
  · intro hn
    simp only [r, dispatch, hn]

/-- Two arguments are the same key, and one holds it inside. -/
theorem dispatch_effect_rehearsed :
    let e := tradesEngine (.ofSeconds 1800)
    let key := "fc_0_000000000"
    let kept := Value.array [.object [("id", .string "q1")]]
    let s := (e.keep .queryDatabase kept (.start e.config)).2
    let args : Members := [("note", .array [.string key]), (deferArgument, .bool true),
      ("tradeIds", .string key), ("trades", .string key)]
    let r := e.dispatch "searchTrades" args false s
    r.2.calls =
      [⟨.searchTrades, [("note", .array [.string key]), ("tradeIds", .array [.string "q1"]),
        ("trades", .array [])]⟩] ∧
      ∃ item, item.key = "fc_3_000000000" ∧ item.producer = .searchTrades ∧
        item.data = .array [.object [("id", .string "t1")], .object [("id", .string "t2")]] ∧
          r.2.store.items = [item] := by
  intro e key kept s args r
  have hu : e.Unexpired s 3 := by decide +kernel
  have hk : e.nextKey (e.called (tradesSearch.tool 0) args s) = "fc_3_000000000" := by
    decide +kernel
  have hf : s.store.find? (e.nextKey (e.called (tradesSearch.tool 0) args s)) = none := by
    rw [← Option.isNone_iff_eq_none]
    decide +kernel
  obtain ⟨hc, hg, -⟩ := (dispatch_effect e "searchTrades" args false s).1
    (tradesSearch.tool 0) rfl hu hf
  have hkey : e.isCacheKey key = true := by decide +kernel
  have hstored : s.store.find? key =
      some (e.itemNow (.start e.config) key kept .queryDatabase) := by
    have hn : e.nextKey (.start e.config) = key := by decide +kernel
    rw [← hn]
    simp [s]
  have hargs : Members.erase args deferArgument =
      [("note", .array [.string key]), ("tradeIds", .string key), ("trades", .string key)] := rfl
  have hleft : (s.store.items.filter fun item =>
      !e.names (Members.erase args deferArgument) item.key).length = 0 := by
    decide +kernel
  obtain ⟨item, hi, hd, hp, hs⟩ := hg _ ⟨rfl, rfl, rfl, rfl⟩
  rw [List.length_eq_zero_iff.mp hleft, List.nil_append] at hs
  refine ⟨hc.trans ?_, item, hi.trans hk, hp, hd, hs⟩
  have hids : e.received (tradesSearch.tool 0) s.store [("note", .array [.string key])] "tradeIds"
      (.string key) = .array [.string "q1"] := by
    rw [received_key hkey, if_neg (by decide +kernel), hstored]
    rfl
  have htrades : e.received (tradesSearch.tool 0) s.store
      [("note", .array [.string key]), ("tradeIds", .string key)] "trades" (.string key) =
      .array [] := by
    rw [received_key hkey, if_pos (by decide +kernel)]
    rfl
  simp only [hargs, List.mapIdx_cons, List.mapIdx_nil, List.take_succ_cons, List.take_zero,
    hids, htrades]
  rfl

end Engine

end Toolflow
