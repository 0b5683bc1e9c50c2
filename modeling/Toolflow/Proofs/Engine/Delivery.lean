import Toolflow.Proofs.Directive.Keys
import Toolflow.Proofs.Engine.Steps
import Toolflow.Proofs.Json.Measures

/-!
How a payload reaches a tool by its key. A call visits its arguments in order, and a key gives way
to what is found under it when its argument is visited (`get?_callOf`). In a batch the key has to
pass the resolution of directives first, which it does just if the prefix of keys does not begin
like a directive. Main statements: `key_reaches_tool`, `sort_prefix_undelivered`.
-/

namespace Toolflow

open Json Cache

theorem Json.Members.get?_erase {args : Members} {argument other : String} (h : argument ≠ other) :
    Members.get? (Members.erase args other) argument = Members.get? args argument := by
  induction args with
  | nil => rfl
  | cons m rest ih =>
    by_cases hm : m.1 = other
    · have hn : argument ≠ m.1 := fun ha => h (ha.trans hm)
      have he : Members.erase (m :: rest) other = Members.erase rest other := by
        simp [Members.erase, hm]
      simp [he, ih, hn]
    · have he : Members.erase (m :: rest) other = m :: Members.erase rest other := by
        simp [Members.erase, hm]
      simp [he, ih]

theorem Json.Members.mem_of_mem_erase {args : Members} {other : String} {m : String × Value}
    (h : m ∈ Members.erase args other) : m ∈ args ∧ m.1 ≠ other := by
  simpa [Members.erase] using h

namespace Engine

/-- An item is in the store and does not expire at the next `n` readings. -/
structure Retrievable (e : Engine) (s : Session) (item : Item) (n : Nat) : Prop where
  found : s.store.find? item.key = some item
  lasts : ∀ j < n, s.store.outlived (e.reading (s.readings + j)) item = false ∧
    s.store.stale (e.reading (s.readings + j)) item = false

variable {e : Engine} {s : Session} {item : Item} {n : Nat} {tool : Tool} {args : Members}
  {argument : String}

/-- How often something is looked up for the arguments before the one of a name. -/
def lookupsBefore (e : Engine) (argument : String) : Members → Nat
  | [] => 0
  | (name, v) :: rest =>
    if argument = name then 0
    else e.lookupsBefore argument rest + if v.string?.any e.isCacheKey then 1 else 0

/-- An item has not expired at the reading after the next `n`. -/
structure LiveAt (e : Engine) (s : Session) (n : Nat) (item : Item) : Prop where
  outlived : s.store.outlived (e.reading (s.readings + n)) item = false
  stale : s.store.stale (e.reading (s.readings + n)) item = false

theorem liveAt_iff :
    e.LiveAt s n item ↔ s.store.outlived (e.reading (s.readings + n)) item = false ∧
      s.store.stale (e.reading (s.readings + n)) item = false :=
  ⟨fun h => ⟨h.outlived, h.stale⟩, fun h => ⟨h.1, h.2⟩⟩

instance (e : Engine) (s : Session) (n : Nat) (item : Item) : Decidable (e.LiveAt s n item) :=
  decidable_of_iff _ liveAt_iff.symm

theorem Retrievable.liveAt (h : e.Retrievable s item n) {j : Nat} (hj : j < n) :
    e.LiveAt s j item :=
  ⟨(h.lasts j hj).1, (h.lasts j hj).2⟩

/-- An item has not expired when it is looked up for an argument of a call. -/
def LiveFor (e : Engine) (s : Session) (args : Members) (argument : String) (item : Item) : Prop :=
  e.LiveAt s (e.lookupsBefore argument (Members.erase args deferArgument)) item

instance (e : Engine) (s : Session) (args : Members) (argument : String) (item : Item) :
    Decidable (e.LiveFor s args argument item) :=
  inferInstanceAs (Decidable (e.LiveAt s _ item))

theorem take_fst (e : Engine) (key : String) (s : Session) :
    (e.take key s).1 = (s.store.find? key).filter fun item => e.LiveAt s 0 item := by
  have hl : (fun item => !s.store.outlived (e.now s) item && !s.store.stale (e.now s) item) =
      fun item => decide (e.LiveAt s 0 item) := by
    funext item
    have hn : e.now s = e.reading (s.readings + 0) := rfl
    rw [Bool.eq_iff_iff, decide_eq_true_iff, liveAt_iff, hn]
    simp
  exact congrArg (Option.filter · (s.store.find? key)) hl

theorem LiveAt.take_fst (h : e.LiveAt s 0 item) (hf : s.store.find? item.key = some item) :
    (e.take item.key s).1 = some item := by
  rw [Engine.take_fst, hf]
  exact Option.filter_some_pos (decide_eq_true h)

theorem liveAt_materializeArgument (shape : Shape) {v : Value} :
    e.LiveAt (e.materializeArgument shape v s).2 n item ↔
      e.LiveAt s (n + if v.string?.any e.isCacheKey then 1 else 0) item := by
  cases v with
  | string text =>
    cases hk : e.isCacheKey text with
    | true =>
      simp only [Engine.materializeArgument, Value.string?_string, Option.any_some, hk, if_true]
      have hr : (e.take text s).2.readings + n = s.readings + (n + 1) := by
        have ht : (e.take text s).2.readings = s.readings + 1 := rfl
        omega
      rw [liveAt_iff, liveAt_iff, hr]
      exact Iff.rfl
    | false =>
      simp only [Engine.materializeArgument, Value.string?_string, Option.any_some, hk,
        Bool.false_eq_true, if_false]
      exact Iff.rfl
  | null | bool | number | array | object => exact Iff.rfl

/-- An argument that does not name the item leaves it where it is. -/
theorem find?_materializeArgument (shape : Shape) {v : Value} {key : String}
    (hv : v ≠ .string key) :
    (e.materializeArgument shape v s).2.store.find? key = s.store.find? key := by
  unfold Engine.materializeArgument
  split
  · next text =>
    have hk : key ≠ text := fun hk => hv (congrArg Value.string hk.symm)
    split
    · simp [hk]
    · rfl
  · rfl

/-- The session in which the argument of a name is visited. -/
def sessionAt (e : Engine) (tool : Tool) (argument : String) : Members → Session → Session
  | [], s => s
  | (name, v) :: rest, s =>
    if argument = name then s
    else e.sessionAt tool argument rest (e.materializeArgument (tool.shape name) v s).2

theorem get?_materialize {v : Value} (ha : Members.get? args argument = some v) :
    Members.get? (e.materialize tool args s).1 argument =
      some (e.materializeArgument (tool.shape argument) v
        (e.sessionAt tool argument args s)).1 := by
  induction args generalizing s with
  | nil => cases ha
  | cons m rest ih =>
    obtain ⟨name, u⟩ := m
    by_cases hn : argument = name
    · obtain rfl : u = v := by simpa [hn] using ha
      simp [materialize, sessionAt, hn]
    · have hr : Members.get? rest argument = some v := by simpa [hn] using ha
      simp [materialize, sessionAt, hn, ih hr]

theorem find?_sessionAt {key : String} (hone : ∀ m ∈ args, m.2 = .string key → m.1 = argument) :
    (e.sessionAt tool argument args s).store.find? key = s.store.find? key := by
  induction args generalizing s with
  | nil => rfl
  | cons m rest ih =>
    obtain ⟨name, v⟩ := m
    rw [sessionAt]
    split
    · rfl
    · next hn =>
      have hv : v ≠ .string key := fun hv => hn (hone (name, v) List.mem_cons_self hv).symm
      rw [ih fun m hm => hone m (List.mem_cons_of_mem _ hm),
        find?_materializeArgument (tool.shape name) hv]

theorem liveAt_sessionAt : e.LiveAt (e.sessionAt tool argument args s) 0 item ↔
    e.LiveAt s (e.lookupsBefore argument args) item := by
  induction args generalizing s with
  | nil => exact Iff.rfl
  | cons m rest ih =>
    obtain ⟨name, v⟩ := m
    rw [sessionAt, lookupsBefore]
    split
    · exact Iff.rfl
    · rw [ih, liveAt_materializeArgument]

end Engine

/-- One argument of a call is a key, and no other is; whether to defer is no argument of the
tool. -/
structure GivenOnce (args : Members) (argument key : String) : Prop where
  given : Members.get? args argument = some (.string key)
  proper : argument ≠ deferArgument
  once : ∀ m ∈ args, m.2 = .string key → m.1 = argument ∨ m.1 = deferArgument

theorem givenOnce_singleton {argument : String} (h : argument ≠ deferArgument) (key : String) :
    GivenOnce [(argument, .string key)] argument key where
  given := by simp
  proper := h
  once m hm _ := .inl (congrArg Prod.fst (List.mem_singleton.mp hm))

namespace Engine

variable {e : Engine} {s : Session} {item : Item} {tool : Tool} {args : Members}
  {argument key : String}

/-- The one argument that is a key receives what it expects of the item under the key, if there is
one and it has not expired when the argument is visited. -/
theorem get?_callOf (tool : Tool) (hk : e.isCacheKey key = true)
    (hg : GivenOnce args argument key) :
    Members.get? (e.callOf tool args s).args argument =
      some (((s.store.find? key).filter fun item => e.LiveFor s args argument item).elim
        (tool.shape argument).fallback
        fun item => (tool.shape argument).unwrap item.data) := by
  have ha : Members.get? (Members.erase args deferArgument) argument = some (.string key) :=
    (Members.get?_erase hg.proper).trans hg.given
  have hone : ∀ m ∈ Members.erase args deferArgument, m.2 = .string key → m.1 = argument := by
    intro m hm hv
    obtain ⟨hm, hne⟩ := Members.mem_of_mem_erase hm
    exact (hg.once m hm hv).resolve_right hne
  have hm : Members.get? (e.callOf tool args s).args argument = _ := get?_materialize ha
  rw [hm]
  simp only [materializeArgument, hk, if_true, take_fst, find?_sessionAt hone, liveAt_sessionAt]
  rfl

theorem get?_callOf_of_found (tool : Tool) (hk : e.isCacheKey item.key = true)
    (hf : s.store.find? item.key = some item) (hg : GivenOnce args argument item.key) :
    Members.get? (e.callOf tool args s).args argument =
      some (if e.LiveFor s args argument item then (tool.shape argument).unwrap item.data
        else (tool.shape argument).fallback) := by
  rw [get?_callOf tool hk hg, hf]
  by_cases hl : e.LiveFor s args argument item <;> simp [Option.filter, hl]

theorem get?_argsFor {step : Step} {text : String} (history : History)
    (ha : Members.get? step.args argument = some (.string text)) :
    Members.get? (e.argsFor history step) argument =
      some (Resolution.resolveText e.config.keyPrefix history text).1 := by
  unfold argsFor
  generalize step.args = args at ha ⊢
  induction args with
  | nil => cases ha
  | cons m rest ih =>
    obtain ⟨name, v⟩ := m
    by_cases hn : argument = name
    · obtain rfl : v = .string text := by simpa [hn] using ha
      simp [Resolution.resolveMembers, Resolution.resolve, hn]
    · have hr : Members.get? rest argument = some (.string text) := by simpa [hn] using ha
      simp [Resolution.resolveMembers, hn, ih hr]

/-- The key of an item passes resolution, whatever has been done, just if the prefix of keys does
not begin like a directive. Then the tool of a dispatched step receives what the argument expects of
the item, or what stands in for it if the item has expired by then. Otherwise the first step of a
batch receives an empty array, whatever there is under the key. -/
theorem key_reaches_tool (e : Engine) (batch : Batch) (s₀ s : Session) (i : Nat) (step : Step)
    (args : Members) (item : Item) (argument : String) (hk : IsKey e.config.keyPrefix item.key)
    (hd : e.Dispatches batch s₀ i step args s) (hf : s.store.find? item.key = some item)
    (ha : Members.get? step.args argument = some (.string item.key)) (hn : argument ≠ deferArgument)
    (hone : ∀ m ∈ args, m.2 = .string item.key → m.1 = argument ∨ m.1 = deferArgument) :
    ((∀ history,
        Resolution.resolveText e.config.keyPrefix history item.key = (.string item.key, [])) ↔
      ¬ Directive.HasLead e.config.keyPrefix) ∧
    ∃ tool, e.registry.get? step.name = some tool ∧
      (e.dispatch step.name.text args (i + 1 < batch.steps.length) s).2.calls =
        s.calls ++ [e.callOf tool args s] ∧
      (¬ Directive.HasLead e.config.keyPrefix → Members.get? (e.callOf tool args s).args argument =
        some (if e.LiveFor s args argument item then (tool.shape argument).unwrap item.data
          else (tool.shape argument).fallback)) ∧
      (Directive.HasLead e.config.keyPrefix → i = 0 →
        Members.get? (e.callOf tool args s).args argument = some (.array [])) := by
  have hres := Resolution.resolveText_key_iff hk
  obtain ⟨hacc, hs, p, hp, -, rfl⟩ := hd
  obtain ⟨tool, ht⟩ := registered_of_accepts hacc (List.mem_of_getElem? hs)
  refine ⟨hres, tool, ht, e.calls_dispatch _ _ s ht, ?_, ?_⟩
  · intro hl
    have hget := get?_argsFor (e := e) p.history ha
    rw [hres.mpr hl p.history] at hget
    exact get?_callOf_of_found tool (hasKeyShape_iff.mpr hk) hf ⟨hget, hn, hone⟩
  · rintro hl rfl
    have hh : p.history = [] := List.length_eq_zero_iff.mp hp.length_history
    obtain ⟨warning, hw⟩ :=
      Resolution.resolveText_nil_of_hasLead e.config.keyPrefix
        ((Directive.hasLead_key_iff hk).mpr hl)
    have hget := get?_argsFor (e := e) p.history ha
    rw [hh, hw] at hget
    rw [hh]
    exact get?_materialize ((Members.get?_erase hn).trans hget)

/-- An engine with one tool, whose keys have a prefix. -/
def deliveryEngine (keyPrefix : String) : Engine :=
  rehearsal { keyPrefix } [{ name := .queryDatabase }]

/-- A session in which two trades were kept under the first key that the engine makes. -/
def deliverySession (keyPrefix : String) : Session :=
  ((deliveryEngine keyPrefix).keep .searchTrades
    (.array [.object [("id", .string "t1")], .object [("id", .string "t2")]]) (.start {})).2

def deliveredItem (keyPrefix : String) : Item :=
  (deliveryEngine keyPrefix).itemNow (.start {}) ((deliveryEngine keyPrefix).nextKey (.start {}))
    (.array [.object [("id", .string "t1")], .object [("id", .string "t2")]]) .searchTrades

/-- A step that asks for the identifiers of the trades. -/
def deliveryStep (keyPrefix : String) : Step :=
  { name := .queryDatabase, args := [("tradeIds", .string (deliveredItem keyPrefix).key)] }

def deliveryBatch (keyPrefix : String) : Batch where
  steps := [deliveryStep keyPrefix]

theorem retrievable_deliveredItem (keyPrefix : String) :
    (deliveryEngine keyPrefix).Retrievable (deliverySession keyPrefix)
      (deliveredItem keyPrefix) 1 := by
  constructor
  · simp [deliverySession, deliveredItem, itemNow]
  · intro j hj
    obtain rfl : j = 0 := Nat.lt_one_iff.mp hj
    have hl : (deliverySession keyPrefix).store.lifespan = 1800000000000 := rfl
    have hr : (deliverySession keyPrefix).readings = 1 := rfl
    have hu : ((deliveryEngine keyPrefix).reading 1).uptime = 1000000 := rfl
    have ht : ((deliveryEngine keyPrefix).reading 1).time = 1000000 := rfl
    have hp : (deliveredItem keyPrefix).putAt = 0 := rfl
    have hs : (deliveredItem keyPrefix).stamp = 0 := rfl
    simp [Store.outlived, Store.stale, hl, hr, hu, ht, hp, hs]

theorem deliveryStep_dispatched {keyPrefix : String} {args : Members}
    (h : args = (deliveryEngine keyPrefix).argsFor [] (deliveryStep keyPrefix)) :
    (deliveryEngine keyPrefix).Dispatches (deliveryBatch keyPrefix) (deliverySession keyPrefix) 0
      (deliveryStep keyPrefix) args (deliverySession keyPrefix) := by
  refine ⟨rfl, rfl, _, .start, ?_, h⟩
  rintro ⟨c, hc, -⟩
  cases hc

theorem key_reaches_tool_rehearsed :
    let e := deliveryEngine "fc_"
    let s := deliverySession "fc_"
    let item := deliveredItem "fc_"
    let step := deliveryStep "fc_"
    IsKey e.config.keyPrefix item.key ∧ e.Dispatches (deliveryBatch "fc_") s 0 step step.args s ∧
      s.store.find? item.key = some item ∧
      Members.get? step.args "tradeIds" = some (.string item.key) ∧
      Resolution.resolveText e.config.keyPrefix [] item.key = (.string item.key, []) ∧
      ∃ tool, e.registry.get? .queryDatabase = some tool ∧
        Members.get? (e.callOf tool step.args s).args "tradeIds" =
          some ((tool.shape "tradeIds").unwrap item.data) := by
  intro e s item step
  have hp : ¬ Directive.HasLead e.config.keyPrefix := by
    rintro ⟨p, hp, hl⟩
    have hn : ∀ p ∈ Directive.productions, ¬ p.1.toList <+: "fc_".toList := by decide +kernel
    exact hn p hp hl
  have hk : IsKey e.config.keyPrefix item.key := hasKeyShape_iff.mp (by decide +kernel)
  have hargs : step.args = e.argsFor [] step := by
    have hr : Resolution.resolveText e.config.keyPrefix [] item.key = (.string item.key, []) :=
      (Resolution.resolveText_key_iff hk).mpr hp []
    simp only [argsFor, step, deliveryStep, Resolution.resolveMembers, Resolution.resolve]
    rw [hr]
  have hd : e.Dispatches (deliveryBatch "fc_") s 0 step step.args s := deliveryStep_dispatched hargs
  have hr : e.Retrievable s item 1 := retrievable_deliveredItem "fc_"
  have hl : e.LiveFor s step.args "tradeIds" item := hr.liveAt Nat.zero_lt_one
  have ha : Members.get? step.args "tradeIds" = some (.string item.key) := rfl
  have hone : ∀ m ∈ step.args, m.2 = .string item.key → m.1 = "tradeIds" ∨ m.1 = deferArgument := by
    intro m hm _
    exact .inl (congrArg Prod.fst (List.mem_singleton.mp hm))
  obtain ⟨hres, tool, ht, -, hg, -⟩ :=
    key_reaches_tool e (deliveryBatch "fc_") s s 0 step step.args item "tradeIds" hk hd hr.found ha
      (by decide +kernel) hone
  have hreceived := hg hp
  rw [if_pos hl] at hreceived
  exact ⟨hk, hd, hr.found, ha, hres.mpr hp [], tool, ht, hreceived⟩

/-- Under a valid prefix that begins like a directive, a payload that is still there does not reach
the tool. -/
theorem sort_prefix_undelivered :
    let e := deliveryEngine "SORT_"
    let s := deliverySession "SORT_"
    let item := deliveredItem "SORT_"
    let step := deliveryStep "SORT_"
    e.config.fault? = none ∧ IsKey e.config.keyPrefix item.key ∧
      e.Retrievable s item 1 ∧ step.args = [("tradeIds", .string item.key)] ∧
    ∃ args tool warning, e.Dispatches (deliveryBatch "SORT_") s 0 step args s ∧
      Resolution.resolveText e.config.keyPrefix [] item.key = (.array [], [warning]) ∧
      e.registry.get? .queryDatabase = some tool ∧
      Members.get? (e.callOf tool args s).args "tradeIds" = some (.array []) ∧
      (tool.shape "tradeIds").unwrap item.data = .array [.string "t1", .string "t2"] := by
  intro e s item step
  have hk : IsKey e.config.keyPrefix item.key := hasKeyShape_iff.mp (by decide +kernel)
  have hl : Directive.HasLead e.config.keyPrefix :=
    ⟨("SORT_", Directive.readSort?), by simp [Directive.productions], by decide +kernel⟩
  obtain ⟨warning, hw⟩ :=
    Resolution.resolveText_nil_of_hasLead e.config.keyPrefix ((Directive.hasLead_key_iff hk).mpr hl)
  have hargs : [("tradeIds", .array [])] = e.argsFor [] step := by
    simp only [argsFor, step, deliveryStep, Resolution.resolveMembers, Resolution.resolve]
    rw [hw]
  exact ⟨by decide +kernel, hk, retrievable_deliveredItem "SORT_", rfl, _, _, warning,
    deliveryStep_dispatched hargs, hw, rfl, rfl, rfl⟩

end Engine

end Toolflow
