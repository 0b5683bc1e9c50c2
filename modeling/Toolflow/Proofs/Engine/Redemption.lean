import Toolflow.Proofs.Engine.Custody
import Toolflow.Proofs.Engine.Deferral
import Toolflow.Proofs.Engine.Handover
import Toolflow.Proofs.Engine.Operations

/-!
Deferred results. A call that asks for deferral returns a summary that names a key, and whoever
passes that key on hands over all of the data, once (`deferred_redeemed`), unless it has expired by
then (`expired_deferral_lost`).
-/

namespace Toolflow

open Json Cache

namespace Cache.Store

variable {s : Store} {key : String}

theorem get_snd (s : Store) (now : Reading) (key : String) :
    (s.get now key).2 = s ∨ (s.get now key).2 = s.remove key := by
  unfold get
  split
  · exact .inl rfl
  · split
    · exact .inr rfl
    · split
      · exact .inl rfl
      · exact .inl rfl

theorem find?_remove_eq_none (h : s.find? key = none) (other : String) :
    (s.remove other).find? key = none := by
  simp [h]

end Cache.Store

/-- The operation is a call that is not given the key. -/
def Operation.CallsWithout (key : String) : Operation → Prop
  | .call _ args _ => ¬ Carried args key
  | _ => False

/-- The key is none of those that are generated from one session to the other. -/
def Session.Unminted (s s' : Session) (key : String) : Prop :=
  ∃ minted, s'.keys = s.keys ++ minted ∧ key ∉ minted

namespace Engine

variable {e : Engine} {tool : Tool} {args : Members} {preserve : Bool} {s s' : Session}
  {name : ToolName} {data : Value} {key argument : String} {item : Item}

theorem keys_materialize (tool : Tool) (args : Members) (s : Session) :
    Members.keys (e.materialize tool args s).1 = Members.keys args := by
  induction args generalizing s with
  | nil => rfl
  | cons m rest ih => exact congrArg (m.1 :: ·) (ih _)

theorem deferArgument_notMem_callOf (e : Engine) (tool : Tool) (args : Members) (s : Session) :
    deferArgument ∉ Members.keys (e.callOf tool args s).args := by
  rw [callOf, keys_materialize]
  intro h
  obtain ⟨m, hm, hk⟩ := List.mem_map.mp h
  exact (Members.mem_of_mem_erase hm).2 hk

/-- A call that asks for deferral returns a summary in place of large data, which is put under the
key that it names. -/
theorem dispatch_deferred (ht : e.registry.get? name = some tool) (hd : asksToDefer args = true)
    (hl : e.largeData? tool (e.replyOf tool args s) = some data) :
    e.dispatch name.text args preserve s =
      (.ok (e.deferral (e.nextKey (e.called tool args s)) tool.name data),
        (e.keep tool.name data (e.called tool args s)).2) := by
  rw [e.dispatch_registered args preserve s ht, invoke_eq, hd, settle_eq, hl]
  rfl

theorem performAll_spares {operations : List Operation} (h : ∀ o ∈ operations, o.CallsWithout key) :
    s.Spares key (e.performAll operations s) := by
  induction operations generalizing s with
  | nil => exact .refl key s
  | cons o rest ih =>
    obtain ⟨ho, hr⟩ := List.forall_mem_cons.mp h
    cases o with
    | call name args preserve =>
      have hs : s.Spares key (e.perform s (.call name args preserve)) :=
        e.dispatch_spares preserve s name fun m hm hv => ho (carried_iff.mpr ⟨m, hm, hv⟩)
      exact hs.trans (ih hr)
    | run | submit | store | peek | take | delete | clear | purge => exact ho.elim

/-- What is not in the store comes into it only under a key that is generated. -/
theorem kept_absent (e : Engine) (keys : List String) (key : String) :
    e.Kept fun s =>
      ∃ minted, s.keys = keys ++ minted ∧ (key ∉ minted → s.store.find? key = none) where
  record _ _ h := h
  keep s producer data h := by
    obtain ⟨minted, hm, hf⟩ := h
    refine ⟨minted ++ [e.nextKey s], (congrArg (· ++ _) hm).trans (List.append_assoc ..),
      fun hk => ?_⟩
    rw [List.mem_append, List.mem_singleton, not_or] at hk
    simp [hk.2, hf hk.1]
  peek s other h := by
    obtain ⟨minted, hm, hf⟩ := h
    refine ⟨minted, hm, fun hk => ?_⟩
    obtain hs | hs := s.store.get_snd (e.now s) other
    · exact (congrArg (Store.find? · key) hs).trans (hf hk)
    · exact (congrArg (Store.find? · key) hs).trans (Store.find?_remove_eq_none (hf hk) other)
  take s other h := by
    obtain ⟨minted, hm, hf⟩ := h
    exact ⟨minted, hm, fun hk => Store.find?_remove_eq_none (hf hk) other⟩
  delete s other h := by
    obtain ⟨minted, hm, hf⟩ := h
    exact ⟨minted, hm, fun hk => Store.find?_remove_eq_none (hf hk) other⟩
  purge s h := by
    obtain ⟨minted, hm, hf⟩ := h
    refine ⟨minted, hm, fun hk => ?_⟩
    rw [find?_purge, hf hk]
    rfl
  clear s h := by
    obtain ⟨minted, hm, -⟩ := h
    exact ⟨minted, hm, fun _ => rfl⟩

/-- Once a call has been given a key, the same call later on receives what stands in for a
payload. -/
theorem get?_callOf_spent (ht : e.registry.get? name = some tool) (hk : e.isCacheKey key = true)
    (hg : GivenOnce args argument key) (operations : List Operation)
    (hm : s.Unminted (e.performAll operations (e.dispatch name.text args preserve s).2) key) :
    Members.get? (e.callOf tool args
      (e.performAll operations (e.dispatch name.text args preserve s).2)).args argument =
      some (tool.shape argument).fallback := by
  have hc : Carried args key := ⟨_, Members.mem_of_get? hg.given, hg.proper, rfl⟩
  -- The call uses the key up, and after it nothing comes to be under the key again.
  obtain ⟨first, hfirst⟩ : s.keys <+: (e.dispatch name.text args preserve s).2.keys :=
    (kept_keys e s.keys).dispatch _ _ _ List.prefix_rfl
  obtain ⟨all, hall, hnone⟩ := (kept_absent e s.keys key).performAll operations
    ⟨first, hfirst.symm, find?_dispatch_of_carried ht hk hc hfirst.symm⟩
  obtain ⟨minted, hm, hn⟩ := hm
  obtain rfl := List.append_cancel_left (hall.symm.trans hm)
  rw [get?_callOf tool hk hg, hnone hn]
  rfl

/-- A deferred result comes as a summary that names a key, and the tool is not told of the request.
A later call that is given the key receives the data itself, if nothing has used the key before and
the data has not expired when it is looked up; the same call after that receives what stands in for
a payload. -/
theorem deferred_redeemed (e : Engine) (s : Session) (name : ToolName) (tool : Tool)
    (args : Members) (preserve : Bool) (o : Outcome) (data : Value)
    (ht : e.registry.get? name = some tool) (hd : asksToDefer args = true)
    (ho : e.replyOf tool args s = .ok o) (hs : o.success = true) (hdata : o.data = some data)
    (hl : tool.isLarge data e.config.largeThreshold.toNat = true)
    (hc : 0 ≤ (e.now (e.called tool args s)).time) :
    let r := e.dispatch name.text args preserve s
    let key := e.nextKey (e.called tool args s)
    let item := e.itemNow (e.called tool args s) key data tool.name
    (∃ info : Summary, r.1 = .ok (Wire.encodeDeferral (.of key info)) ∧
      info.count = .ofNat ((Payload.recordCount? data).getD 1) ∧
      info.snippet = (Payload.records? data).elim .null fun records =>
        .array (records.take e.config.snippetLength.toNat)) ∧
    r.2.calls = s.calls ++ [e.callOf tool args s] ∧
      deferArgument ∉ Members.keys (e.callOf tool args s).args ∧
    ∀ before name' tool' args' preserve' argument, e.registry.get? name' = some tool' →
      GivenOnce args' argument key →
      (∀ o ∈ before, o.CallsWithout key) →
      let t := e.performAll before r.2
      let t' := (e.dispatch name'.text args' preserve' t).2
      r.2.Unminted t key → e.LiveFor t args' argument item →
        t'.calls = t.calls ++ [e.callOf tool' args' t] ∧
        Members.get? (e.callOf tool' args' t).args argument =
          some ((tool'.shape argument).unwrap data) ∧
        ∀ after, let u := e.performAll after t'
          t.Unminted u key →
            Members.get? (e.callOf tool' args' u).args argument =
              some (tool'.shape argument).fallback := by
  intro r key item
  have hlarge : e.largeData? tool (e.replyOf tool args s) = some data := by
    rw [ho]
    exact e.largeData?_eq_some_iff.mpr ⟨hs, hdata, hl⟩
  have hr : r = (.ok (e.deferral key tool.name data),
      (e.keep tool.name data (e.called tool args s)).2) :=
    dispatch_deferred ht hd hlarge
  have hk : e.isCacheKey item.key = true := isCacheKey_nextKey hc
  refine ⟨⟨e.summary tool.name data, congrArg Prod.fst hr, rfl, rfl⟩,
    e.calls_dispatch args preserve s ht, e.deferArgument_notMem_callOf tool args s, ?_⟩
  intro before name' tool' args' preserve' argument ht' hg hbefore t t' hm hlive
  have hfound : t.store.find? item.key = some item := by
    obtain ⟨minted, hm, hn⟩ := hm
    have hspared : t.store.find? key = r.2.store.find? key :=
      (performAll_spares hbefore).find?_eq hm hn
    have hput : r.2.store.find? key = some item := by
      rw [hr]
      simp [key, item]
    exact hspared.trans hput
  have hget := get?_callOf_of_found tool' hk hfound hg
  rw [if_pos hlive] at hget
  exact ⟨e.calls_dispatch args' preserve' t ht', hget,
    fun after => get?_callOf_spent ht' hk hg after⟩

theorem deferred_redeemed_rehearsed :
    let e := tradesEngine (.ofSeconds 1800)
    let args : Members := [(deferArgument, .bool true)]
    let r := e.dispatch "searchTrades" args false (.start e.config)
    let args' : Members := [("tradeIds", .string "fc_0_000000000")]
    let t := e.performAll [.call "queryDatabase" [] false] r.2
    let t' := (e.dispatch "queryDatabase" args' false t).2
    asksToDefer args = true ∧ GivenOnce args' "tradeIds" "fc_0_000000000" ∧
      (∃ info : Summary, r.1 = .ok (Wire.encodeDeferral (.of "fc_0_000000000" info)) ∧
        info.count = 2) ∧
      ∃ tool, e.registry.get? .queryDatabase = some tool ∧
        Members.get? (e.callOf tool args' t).args "tradeIds" =
          some (.array [.string "t1", .string "t2"]) ∧
        Members.get? (e.callOf tool args' t').args "tradeIds" = some (.array []) := by
  intro e args r args' t t'
  have hg : GivenOnce args' "tradeIds" "fc_0_000000000" := givenOnce_singleton (by decide) _
  have hkeys : r.2.keys = ["fc_0_000000000"] ∧ t.keys = ["fc_0_000000000"] ∧
      t'.keys = ["fc_0_000000000"] := by
    decide +kernel
  obtain ⟨hr, ht, ht'⟩ := hkeys
  have hkey : e.nextKey (e.called (tradesSearch.tool 0) args (.start e.config)) =
      "fc_0_000000000" := by decide +kernel
  obtain ⟨hsummary, -, -, hredeemed⟩ :=
    deferred_redeemed e (.start e.config) .searchTrades (tradesSearch.tool 0) args false
      _ _ rfl rfl rfl rfl rfl rfl (by decide)
  obtain ⟨info, hinfo, hcount, -⟩ := hsummary
  rw [hkey] at hinfo hredeemed
  have hbefore : ∀ o ∈ [Operation.call "queryDatabase" [] false],
      o.CallsWithout "fc_0_000000000" := by
    intro o ho
    obtain rfl := List.mem_singleton.mp ho
    rintro ⟨m, hm, -⟩
    cases hm
  have hlive : e.LiveFor t args' "tradeIds"
      (e.itemNow (e.called (tradesSearch.tool 0) args (.start e.config)) "fc_0_000000000"
        (.array [.object [("id", .string "t1")], .object [("id", .string "t2")]])
        .searchTrades) :=
    ⟨by decide +kernel, by decide +kernel⟩
  have hmt : r.2.Unminted t "fc_0_000000000" :=
    ⟨[], by rw [ht, hr, List.append_nil], List.not_mem_nil⟩
  have hmt' : t.Unminted t' "fc_0_000000000" :=
    ⟨[], by rw [ht, ht', List.append_nil], List.not_mem_nil⟩
  obtain ⟨-, hfirst, hagain⟩ :=
    hredeemed _ .queryDatabase _ args' false "tradeIds" rfl hg hbefore hmt hlive
  exact ⟨rfl, hg, ⟨info, hinfo, hcount⟩, _, rfl, hfirst, hagain [] hmt'⟩

/-- The data of a deferred result is lost to the call that is given its key at once, as it has
expired in between. -/
theorem expired_deferral_lost :
    let e := tradesEngine (.ofNanos 1)
    let args : Members := [(deferArgument, .bool true)]
    let r := e.dispatch "searchTrades" args false (.start e.config)
    let args' : Members := [("tradeIds", .string "fc_0_000000000")]
    asksToDefer args = true ∧
    ∃ tool tool' o data, e.registry.get? .searchTrades = some tool ∧
      e.registry.get? .queryDatabase = some tool' ∧
      e.replyOf tool args (.start e.config) = .ok o ∧ o.success = true ∧ o.data = some data ∧
      tool.isLarge data e.config.largeThreshold.toNat = true ∧
        0 ≤ (e.now (e.called tool args (.start e.config))).time ∧
      r.2.keys = ["fc_0_000000000"] ∧ GivenOnce args' "tradeIds" "fc_0_000000000" ∧
      tool'.shape "tradeIds" = .ids ∧ Payload.ids? data = some [.string "t1", .string "t2"] ∧
      Members.get? (e.callOf tool' args' r.2).args "tradeIds" = some (.array []) := by
  intro e args r args'
  have hg : GivenOnce args' "tradeIds" "fc_0_000000000" := givenOnce_singleton (by decide) _
  have hkeys : r.2.keys = ["fc_0_000000000"] := by decide +kernel
  refine ⟨rfl, _, _, _, _, rfl, rfl, rfl, rfl, rfl, rfl, by decide, hkeys, hg, rfl, rfl, ?_⟩
  have hk : e.isCacheKey "fc_0_000000000" = true := by decide +kernel
  have he : (e.take "fc_0_000000000" r.2).1 = none := by
    rw [← Option.isNone_iff_eq_none]
    decide +kernel
  have ha : Members.erase args' deferArgument = args' := rfl
  simp only [callOf, ha, args', materialize, materializeArgument, hk, if_true, he, Option.elim_none]
  rfl

end Engine

end Toolflow
