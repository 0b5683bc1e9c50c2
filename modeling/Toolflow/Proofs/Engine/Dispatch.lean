import Toolflow.Engine.Dispatch
import Toolflow.Proofs.Engine.Session

/-!
What a call of a registered tool amounts to. The keys among its arguments are used up
(`store_materialize`) and the tool receives one call (`calls_dispatch`); its reply is then settled
in one of three ways (`settle_eq`): handed on as it is, handed on with a key beside it, or replaced
by a summary that names a key.
-/

namespace Toolflow

open Json Cache

def Outcome.ofReply : Except EngineError Outcome → Outcome
  | .ok outcome => outcome
  | .error error => .failure error.message

namespace Engine

variable (e : Engine) (tool : Tool) (args : Members) (preserve : Bool) (s : Session)

/-- The call that a tool receives for some arguments. -/
def callOf : Call :=
  ⟨tool.name, (e.materialize tool (Members.erase args deferArgument) s).1⟩

def replyOf : Except EngineError Outcome :=
  tool.respond s.calls (e.callOf tool args s).args

/-- The session in which a tool has received its call and the reply is not settled yet. -/
def called : Session :=
  (e.materialize tool (Members.erase args deferArgument) s).2.record (e.callOf tool args s)

/-- Whether the text is a key that one of the arguments is. -/
def names (args : Members) (text : String) : Bool :=
  e.isCacheKey text && args.any fun m => m.2.string? == some text

/-- The data of a reply that is kept if that is asked for. -/
def largeData? : Except EngineError Outcome → Option Value
  | .ok outcome =>
    outcome.data.filter fun data =>
      outcome.success && tool.isLarge data e.config.largeThreshold.toNat
  | .error _ => none

/-- The data that stands in for data kept under a key. -/
def deferral (key : String) (producer : ToolName) (data : Value) : Value :=
  Wire.encodeDeferral (.of key (e.summary producer data))

theorem materializeArgument_quiet (shape : Shape) (v : Value) :
    s.Quiet (e.materializeArgument shape v s).2 := by
  unfold materializeArgument
  split
  · split
    · exact e.take_quiet _ s
    · exact .refl s
  · exact .refl s

theorem materialize_quiet : s.Quiet (e.materialize tool args s).2 := by
  induction args generalizing s with
  | nil => exact .refl s
  | cons m rest ih =>
    obtain ⟨argument, v⟩ := m
    exact (e.materializeArgument_quiet s (tool.shape argument) v).trans (ih _)

theorem names_cons (m : String × Value) (rest : Members) (text : String) :
    e.names (m :: rest) text = (e.names [m] text || e.names rest text) := by
  simp only [names, List.any_cons, List.any_nil, Bool.or_false, Bool.and_or_distrib_left]

theorem store_materializeArgument (shape : Shape) (m : String × Value) :
    (e.materializeArgument shape m.2 s).2.store =
      s.store.keep fun item => !e.names [m] item.key := by
  have hs (h : ∀ item : Item, e.names [m] item.key = false) :
      s.store = s.store.keep fun item => !e.names [m] item.key :=
    (Store.keep_eq_self fun item _ => by rw [h, Bool.not_false]).symm
  obtain ⟨argument, v⟩ := m
  cases v with
  | string text =>
    cases hk : e.isCacheKey text with
    | true =>
      simp only [materializeArgument, hk, if_true]
      have hn : (fun item : Item => !e.names [(argument, .string text)] item.key) =
          fun item => decide (item.key ≠ text) := by
        funext item
        by_cases hi : item.key = text
        · simp [names, hi, hk]
        · simp [names, hi, Ne.symm hi]
      rw [hn]
      rfl
    | false =>
      simp only [materializeArgument, hk, Bool.false_eq_true, if_false]
      apply hs
      intro item
      by_cases hi : item.key = text
      · simp [names, hi, hk]
      · simp [names, Ne.symm hi]
  | null | bool | number | array | object => exact hs fun item => by simp [names, Value.string?]

/-- The keys among the arguments are used up, and nothing else is. -/
theorem store_materialize :
    (e.materialize tool args s).2.store = s.store.keep fun item => !e.names args item.key := by
  induction args generalizing s with
  | nil => exact (Store.keep_eq_self fun item _ => by simp [names]).symm
  | cons m rest ih =>
    have hm := e.store_materializeArgument s (tool.shape m.1) m
    rw [materialize, ih, hm, Store.keep_keep]
    congr 1
    funext item
    rw [e.names_cons m rest, Bool.not_or, Bool.and_comm]

@[simp]
theorem calls_called : (e.called tool args s).calls = s.calls ++ [e.callOf tool args s] := by
  have h := e.materialize_quiet tool (Members.erase args deferArgument) s
  simp only [called, Session.record, h.calls]

@[simp]
theorem keys_called : (e.called tool args s).keys = s.keys := by
  have h := e.materialize_quiet tool (Members.erase args deferArgument) s
  simp only [called, Session.record, h.keys]

theorem invoke_eq : e.invoke tool args preserve s =
    e.settle tool (asksToDefer args) preserve (e.replyOf tool args s) (e.called tool args s) := by
  have h := e.materialize_quiet tool (Members.erase args deferArgument) s
  simp only [invoke, replyOf, callOf, called, h.calls]

theorem settle_eq (defer : Bool) (reply : Except EngineError Outcome) :
    e.settle tool defer preserve reply s =
      match e.largeData? tool reply with
      | none => (.ofReply reply, s)
      | some data =>
        let r := e.keep tool.name data s
        if defer then (.ok (e.deferral r.1 tool.name data), r.2)
        else if preserve then ((Outcome.ofReply reply).withCacheKey r.1, r.2)
        else (.ofReply reply, s) := by
  cases reply with
  | error error => rfl
  | ok outcome =>
    obtain ⟨success, data, error, cacheKey⟩ := outcome
    cases data with
    | none => rfl
    | some data =>
      cases hl : success && tool.isLarge data e.config.largeThreshold.toNat with
      | false => simp [settle, largeData?, Outcome.ofReply, Option.filter, hl]
      | true => simp [settle, largeData?, Outcome.ofReply, Option.filter, hl, deferral]

variable {e tool} in
theorem largeData?_eq_some_iff {reply : Except EngineError Outcome} {data : Value} :
    e.largeData? tool reply = some data ↔ (Outcome.ofReply reply).success = true ∧
      (Outcome.ofReply reply).data = some data ∧
        tool.isLarge data e.config.largeThreshold.toNat = true := by
  cases reply with
  | error error => simp [largeData?, Outcome.ofReply, Outcome.failure]
  | ok outcome =>
    rw [largeData?, Option.filter_eq_some_iff, Bool.and_eq_true, Outcome.ofReply]
    exact and_left_comm

@[simp]
theorem calls_settle (defer : Bool) (reply : Except EngineError Outcome) :
    (e.settle tool defer preserve reply s).2.calls = s.calls := by
  rw [settle_eq]
  cases e.largeData? tool reply with
  | none => rfl
  | some data => cases defer <;> cases preserve <;> rfl

/-- Without deferral, whatever key is generated comes with the outcome. -/
theorem keys_settle (reply : Except EngineError Outcome) :
    ∃ minted, (e.settle tool false preserve reply s).2.keys = s.keys ++ minted ∧
      ∀ key ∈ minted, (e.settle tool false preserve reply s).1.cacheKey = some key := by
  rw [settle_eq]
  cases e.largeData? tool reply with
  | none => exact ⟨[], by simp, by simp⟩
  | some data =>
    cases preserve with
    | false => exact ⟨[], by simp, by simp⟩
    | true =>
      exact ⟨[(e.keep tool.name data s).1], rfl,
        fun key hk => by rw [List.mem_singleton.mp hk]; rfl⟩

variable {tool} {name : ToolName}

theorem dispatch_registered (h : e.registry.get? name = some tool) :
    e.dispatch name.text args preserve s = e.invoke tool args preserve s := by
  simp [dispatch, h]

theorem calls_dispatch (h : e.registry.get? name = some tool) :
    (e.dispatch name.text args preserve s).2.calls = s.calls ++ [e.callOf tool args s] := by
  rw [e.dispatch_registered args preserve s h, invoke_eq, calls_settle, calls_called]

theorem keys_dispatch (h : e.registry.get? name = some tool) (hd : asksToDefer args = false) :
    ∃ minted, (e.dispatch name.text args preserve s).2.keys = s.keys ++ minted ∧
      ∀ key ∈ minted, (e.dispatch name.text args preserve s).1.cacheKey = some key := by
  rw [e.dispatch_registered args preserve s h, invoke_eq, hd, ← e.keys_called tool args s]
  exact e.keys_settle tool preserve _ _

end Engine

end Toolflow
