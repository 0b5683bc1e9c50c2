import Toolflow.Proofs.Except
import Toolflow.Proofs.Payload.Heredity
import Toolflow.Proofs.Record.Sets
import Toolflow.Proofs.Resolution.Evaluation
import Toolflow.Proofs.Resolution.Structure

/-!
Where resolved data comes from. Whatever a directive comes to is made of parts of the outcomes in
the history, so it has every hereditary property that they have (`evaluate_hereditary`). In
particular no directive comes to a text that is not in the history, and where the history holds none
that would be resolved, none is left after resolution. Main statement: `resolution_settles`.
-/

namespace Toolflow

open Json

namespace Record

variable {items : List Value} {v : Value}

theorem mem_of_mem_slice {start stop : Nat} (h : v ∈ slice items start stop) : v ∈ items :=
  List.mem_of_mem_take (List.mem_of_mem_drop h)

theorem mem_of_mem_filter {property : String} {p : Predicate} (h : v ∈ filter items property p) :
    v ∈ items :=
  (List.mem_filter.mp h).1

theorem mem_of_mem_sort {property : String} {direction : Direction}
    (h : v ∈ sort items property direction) : v ∈ items :=
  List.mem_mergeSort.mp h

end Record

namespace Directive

variable {P : Value → Prop} {history : History} {o : Outcome} {v : Value} {path : List String}
  {i : Nat} {items : List Value}

theorem bears_of_entryAt (hh : ∀ entry ∈ history, entry.outcome.Bears P) {source : Source}
    {entry : Entry} (h : history.entryAt source = .ok (i, entry)) : entry.outcome.Bears P :=
  hh entry (List.mem_of_getElem? (History.getElem?_of_entryAt h))

theorem hereditary_arrayAt (hp : Value.Hereditary P) (hh : ∀ entry ∈ history, entry.outcome.Bears P)
    {source : Source} {entry : Entry} (he : history.entryAt source = .ok (i, entry))
    (hi : entry.outcome.arrayAt path = .ok items) :
    ∀ x ∈ items, P x := by
  have ha : P (.array items) :=
    hp.outcome_lookup (bears_of_entryAt hh he) (Outcome.arrayAt_eq_ok.mp hi)
  exact fun x => hp.child ha

theorem hereditary_listAt (hp : Value.Hereditary P) (hh : ∀ entry ∈ history, entry.outcome.Bears P)
    {l : Payload.Listing} {source : Source} (h : history.listAt l source = .ok items) :
    ∀ x ∈ items, P x := by
  obtain ⟨i, entry, he, hi⟩ := History.listAt_eq_ok.mp h
  exact hp.listing (hp.dataOrNull (bears_of_entryAt hh he)) hi

/-- Apart from keys, which stand for themselves, directives come to what is made of parts of the
history. -/
theorem evaluate_hereditary (hp : Value.Hereditary P)
    (hh : ∀ entry ∈ history, entry.outcome.Bears P) {d : Directive} (hk : ∀ key, d ≠ .cacheKey key)
    (h : d.evaluate history = .ok v) : P v := by
  cases d with
  | field source path =>
    obtain ⟨⟨i, entry⟩, he, h⟩ := bind_eq_ok.mp h
    exact hp.outcome_lookup (bears_of_entryAt hh he) (Outcome.lookupResolved_eq_ok.mp h)
  | idSet operation indices | recordSet operation indices =>
    obtain ⟨lists, hl, h⟩ := bind_eq_ok.mp h
    cases h
    refine hp.array fun x hx => ?_
    obtain ⟨list, hm, hx⟩ := Record.mem_of_mem_combineBy hx
    obtain ⟨n, -, hn⟩ := exists_of_mem_mapM hl hm
    exact hereditary_listAt hp hh hn x hx
  | slice source path start stop =>
    obtain ⟨⟨i, entry⟩, he, h⟩ := bind_eq_ok.mp h
    obtain ⟨items, hi, h⟩ := bind_eq_ok.mp h
    cases h
    exact hp.array fun x hx => hereditary_arrayAt hp hh he hi x (Record.mem_of_mem_slice hx)
  | filter source list property predicate =>
    obtain ⟨⟨i, entry⟩, he, h⟩ := bind_eq_ok.mp h
    obtain ⟨items, hi, h⟩ := bind_eq_ok.mp h
    cases h
    exact hp.array fun x hx => hereditary_arrayAt hp hh he hi x (Record.mem_of_mem_filter hx)
  | sort source list property direction =>
    obtain ⟨⟨i, entry⟩, he, h⟩ := bind_eq_ok.mp h
    obtain ⟨items, hi, h⟩ := bind_eq_ok.mp h
    cases h
    exact hp.array fun x hx => hereditary_arrayAt hp hh he hi x (Record.mem_of_mem_sort hx)
  | whole source =>
    obtain ⟨⟨i, entry⟩, he, h⟩ := bind_eq_ok.mp h
    cases h
    exact hp.envelope (bears_of_entryAt hh he)
  | ids source | records source =>
    obtain ⟨items, hi, h⟩ := bind_eq_ok.mp h
    cases h
    exact hp.array (hereditary_listAt hp hh hi)
  | cacheKey key => exact absurd rfl (hk key)
  | malformed | literal => cases h

/-- Ordinary text, or a key. -/
def Inert : Directive → Prop
  | .literal => True
  | .cacheKey _ => True
  | _ => False

instance : DecidablePred Inert
  | .literal | .cacheKey _ => .isTrue trivial
  | .field .. | .idSet .. | .recordSet .. | .slice .. | .filter .. | .sort .. | .whole .. | .ids ..
  | .records ..
  | .malformed .. => .isFalse id

end Directive

namespace Resolution

open Directive

/-- There is nothing in the value that would be resolved. -/
def Settled (keyPrefix : String) : Value → Prop :=
  Value.EveryText fun text => (read keyPrefix text).Inert

instance (keyPrefix : String) : DecidablePred (Settled keyPrefix) :=
  fun v => inferInstanceAs (Decidable (Value.EveryText _ v))

variable {keyPrefix : String} {history : History} {v : Value} {text : String}

theorem hereditary_settled (keyPrefix : String) : Value.Hereditary (Settled keyPrefix) :=
  Value.hereditary_everyText _

theorem answer?_eq_none_iff :
    answer? keyPrefix history text = none ↔ (read keyPrefix text).Inert := by
  unfold answer?
  cases read keyPrefix text <;> simp [Inert]

/-- A text that is resolved comes to a part of the history, and a text that is not is settled. -/
theorem settled_replacement (hh : ∀ entry ∈ history, entry.outcome.Bears (Settled keyPrefix))
    (text : String) :
    Settled keyPrefix (replacement keyPrefix history text) := by
  cases ha : answer? keyPrefix history text with
  | none =>
    rw [replacement, ha]
    exact Value.everyText_string.mpr (answer?_eq_none_iff.mp ha)
  | some answer =>
    have hk : ∀ key, read keyPrefix text ≠ .cacheKey key := by
      intro key hr
      simp [answer?, hr] at ha
    have he : (read keyPrefix text).evaluate history = answer := by
      unfold answer? at ha
      split at ha <;> cases ha
      rfl
    rw [replacement, ha]
    cases answer with
    | ok v => exact evaluate_hereditary (hereditary_settled keyPrefix) hh hk he
    | error e => exact (hereditary_settled keyPrefix).array (List.forall_mem_nil _)

theorem settled_resolve (hh : ∀ entry ∈ history, entry.outcome.Bears (Settled keyPrefix))
    (v : Value) :
    Settled keyPrefix (resolve keyPrefix history v).1 := by
  induction v using Value.inductChildren with
  | step v ih =>
  cases hs : v.string? with
  | some text =>
    obtain rfl := Value.string?_eq_some_iff.mp hs
    rw [resolve_string]
    exact settled_replacement hh text
  | none =>
    have hr : (resolve keyPrefix history v).1.string? = none := by
      cases v with
      | string => cases hs
      | null | bool | number | array | object => rfl
    refine (Value.everyText_iff hr).mpr ?_
    rw [children_resolve hs, List.forall_mem_map]
    exact ih

theorem resolve_of_settled (history : History) (h : Settled keyPrefix v) :
    resolve keyPrefix history v = (v, []) := by
  induction v using Value.inductChildren with
  | step v ih =>
  have hc : ∀ c ∈ v.children, resolve keyPrefix history c = (c, []) :=
    fun c hc => ih c hc ((hereditary_settled keyPrefix).child h hc)
  cases v with
  | null | bool | number => rfl
  | string text =>
    have ha : answer? keyPrefix history text = none :=
      answer?_eq_none_iff.mpr (Value.everyText_string.mp h)
    rw [resolve_string, replacement, warning?, ha]
    rfl
  | array items =>
    have hi : ∀ c ∈ items, resolve keyPrefix history c = (c, []) := hc
    have hm : items.map (fun c => (resolve keyPrefix history c).1) = items.map id :=
      List.map_congr_left fun c hc => congrArg Prod.fst (hi c hc)
    have hw : items.flatMap (fun c => (resolve keyPrefix history c).2) = [] :=
      List.flatMap_eq_nil_iff.mpr fun c hc => congrArg Prod.snd (hi c hc)
    simp only [resolve, resolveItems_eq, hm, hw, List.map_id]
  | object members =>
    have hi : ∀ m ∈ members, resolve keyPrefix history m.2 = (m.2, []) :=
      fun m hm => hc m.2 (List.mem_map_of_mem hm)
    have hm : members.map (fun m => (m.1, (resolve keyPrefix history m.2).1)) = members.map id :=
      List.map_congr_left fun m hm => congrArg (fun r => (m.1, r.1)) (hi m hm)
    have hw : members.flatMap (fun m => (resolve keyPrefix history m.2).2) = [] :=
      List.flatMap_eq_nil_iff.mpr fun m hm => congrArg Prod.snd (hi m hm)
    simp only [resolve, resolveMembers_eq, hm, hw, List.map_id]

/-- If nothing in the history would be resolved, nothing in resolved arguments would be, so that to
resolve them again changes nothing, whatever the history is by then. -/
theorem resolution_settles (keyPrefix : String) (history : History) (args : Members)
    (h : ∀ entry ∈ history, entry.outcome.Bears (Settled keyPrefix)) :
    let resolved := (resolveMembers keyPrefix history args).1
    Settled keyPrefix (.object resolved) ∧ ∀ later, resolveMembers keyPrefix later resolved =
      (resolved, []) := by
  intro resolved
  have hr (history : History) (args : Members) : resolve keyPrefix history (.object args) =
      (.object (resolveMembers keyPrefix history args).1,
        (resolveMembers keyPrefix history args).2) := by
    rw [resolve]
  have hs : Settled keyPrefix (.object resolved) := by
    have hs := settled_resolve h (.object args)
    rwa [hr] at hs
  refine ⟨hs, fun later => ?_⟩
  have he := resolve_of_settled later hs
  rw [hr] at he
  obtain ⟨hm, hw⟩ := Prod.mk.inj he
  exact Prod.ext (Value.object.inj hm) hw

theorem resolution_settles_rehearsed :
    let key := "fc_1700000000000_ab12cd34e"
    let failed : Outcome := { success := false, data := some (.array [.string key]),
                              error := some "late", cacheKey := some key }
    let history : History :=
      [.executed .searchTrades []
        (.ok (.object [("trades", .array [.object [("id", .string "t1")]])])),
       .executed .queryDatabase [] failed]
    let args : Members := [("a", .array [.string "EXTRACT_TRADE_IDS_0", .string "EXTRACT_0.note"]),
      ("b", .string "LAST_RESULT")]
    let resolved : Members :=
      [("a", .array [.array [.string "t1"], .array []]), ("b", failed.envelope)]
    (∀ entry ∈ history, entry.outcome.Bears (Settled "fc_")) ∧
      (resolveMembers "fc_" history args).1 = resolved ∧
      Settled "fc_" (.object resolved) ∧ ∀ later, resolveMembers "fc_" later resolved =
        (resolved, []) := by
  intro key failed history args resolved
  have hh : ∀ entry ∈ history, entry.outcome.Bears (Settled "fc_") := by decide +kernel
  have hr : (resolveMembers "fc_" history args).1 = resolved := rfl
  have hs := resolution_settles "fc_" history args hh
  rw [hr] at hs
  exact ⟨hh, hr, hs⟩

end Resolution

end Toolflow
