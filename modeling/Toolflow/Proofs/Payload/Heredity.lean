import Toolflow.Proofs.Json.Heredity
import Toolflow.Proofs.Payload.Identifier
import Toolflow.Proofs.Payload.Path
import Toolflow.Resolution.Evaluate

/-!
What is read out of a payload is made of its parts, so it has every hereditary property that the
payload has: identifiers and records (`Hereditary.ids`, `Hereditary.records`) and whatever a path
leads to (`Hereditary.lookup`). The same holds of outcomes (`Hereditary.outcome_lookup`); that
members are in order is one such property (`Outcome.ordered_lookup`).
-/

namespace Toolflow

open Json Payload

/-- The data of an outcome has a property, and so do its other texts. -/
structure Outcome.Bears (P : Value → Prop) (o : Outcome) : Prop where
  data : ∀ v, o.data = some v → P v
  error : ∀ text, o.error = some text → P (.string text)
  cacheKey : ∀ key, o.cacheKey = some key → P (.string key)

instance (P : Value → Prop) [DecidablePred P] (o : Outcome) : Decidable (o.Bears P) :=
  decidable_of_iff ((∀ v ∈ o.data, P v) ∧ (∀ text ∈ o.error, P (.string text)) ∧ ∀ key ∈ o.cacheKey,
    P (.string key))
    ⟨fun h => ⟨h.1, h.2.1, h.2.2⟩, fun h => ⟨h.data, h.error, h.cacheKey⟩⟩

namespace Json.Value.Hereditary

variable {P : Value → Prop} {v w : Value} {items : List Value} {members : Members} {key : String}
  {path : List String} {o : Outcome}

theorem member (hp : Hereditary P) (h : P (.object members))
    (hv : Members.get? members key = some v) : P v :=
  hp.child h (List.mem_map_of_mem (Members.mem_of_get? hv))

theorem identifier (hp : Hereditary P) (h : P v) (hi : identifier? v = some w) : P w := by
  cases offers_of_identifier? hi with
  | itself hw =>
    obtain rfl := eq_of_asIdentifier? hw
    exact h
  | member _ hv hw =>
    obtain rfl := eq_of_asIdentifier? hw
    exact hp.member h hv

theorem identifiers (hp : Hereditary P) (h : ∀ v ∈ items, P v) :
    ∀ w ∈ items.filterMap identifier?, P w := by
  intro w hw
  obtain ⟨v, hv, hi⟩ := List.mem_filterMap.mp hw
  exact hp.identifier (h v hv) hi

theorem records (hp : Hereditary P) {rs : List Value} (h : P v) (hr : records? v = some rs) :
    ∀ r ∈ rs, P r := by
  induction v using inductChildren with
  | step v ih =>
  unfold records? at hr
  split at hr
  · cases hr
    exact fun r => hp.child h
  · next members =>
    split at hr
    · next trades ht =>
      cases hr
      exact fun r => hp.child (hp.member h ht)
    · obtain hd | ⟨-, hs⟩ := Option.or_eq_some_iff.mp hr
      · rw [dataRecords?_eq] at hd
        obtain ⟨d, hg, hd⟩ := Option.bind_eq_some_iff.mp hd
        exact ih d (List.mem_map_of_mem (Members.mem_of_get? hg)) (hp.member h hg) hd
      · obtain ⟨_, -, rfl⟩ := Option.map_eq_some_iff.mp hs
        exact List.forall_mem_singleton.mpr h
  · cases hr

theorem ids (hp : Hereditary P) {ids : List Value} (h : P v) (hr : ids? v = some ids) :
    ∀ i ∈ ids, P i := by
  have hrecords {w : Value} (hw : P w)
      (hi : (records? w).map (List.filterMap identifier?) = some ids) : ∀ i ∈ ids, P i := by
    obtain ⟨rs, hrs, rfl⟩ := Option.map_eq_some_iff.mp hi
    exact hp.identifiers (hp.records hw hrs)
  induction v using inductChildren with
  | step v ih =>
  unfold ids? at hr
  split at hr
  · next members =>
    split at hr
    · next listed ht =>
      cases hr
      exact hp.identifiers fun i => hp.child (hp.member h ht)
    · obtain hd | ⟨-, hs⟩ := Option.or_eq_some_iff.mp hr
      · rw [dataIds?_eq] at hd
        obtain ⟨d, hg, hd⟩ := Option.bind_eq_some_iff.mp hd
        exact ih d (List.mem_map_of_mem (Members.mem_of_get? hg)) (hp.member h hg) hd
      · exact hrecords h hs
  · exact hrecords h hr

theorem listing (hp : Hereditary P) {l : Listing} (h : P v) (hr : l.read v = some items) :
    ∀ x ∈ items, P x := by
  cases l with
  | ids => exact hp.ids h hr
  | records => exact hp.records h hr

theorem arrayProperty (hp : Hereditary P) {segment : String} (h : P (.array items))
    (hv : arrayProperty? items segment = some v) : P v := by
  unfold arrayProperty? at hv
  split at hv
  · cases hv
    exact hp.number _
  · split at hv
    · cases hv
      exact hp.array (hp.identifiers fun i => hp.child h)
    · cases hv

theorem leads (hp : Hereditary P) (h : P v) (hl : Leads v path w) : P w := by
  induction hl with
  | nil => exact h
  | key hv _ ih => exact ih (hp.member h hv)
  | index _ hv _ ih => exact ih (hp.child h (List.mem_of_getElem? hv))

theorem lookup (hp : Hereditary P) (h : P v) (hl : Payload.lookup v path = .ok w) : P w := by
  induction path generalizing v with
  | nil =>
    cases hl
    exact h
  | cons segment rest ih =>
    obtain ⟨u, hu, hl⟩ | ⟨-, items, rfl, ha⟩ := lookup_cons_eq_ok hl
    · exact ih (hp.leads h hu) hl
    · exact hp.arrayProperty h ha

theorem dataOrNull (hp : Hereditary P) (h : o.Bears P) : P o.dataOrNull := by
  unfold Outcome.dataOrNull
  cases hd : o.data with
  | none => exact hp.null
  | some v => exact h.data v hd

theorem envelope (hp : Hereditary P) (h : o.Bears P) : P o.envelope := by
  have hs : P (.object [("success", .bool o.success)]) :=
    hp.insert "success" hp.empty (hp.bool o.success)
  have hi (key : String) {members : Members} (part : Option Value) (hm : P (.object members))
      (hv : ∀ v, part = some v → P v) :
      P (.object (part.elim members fun v => Members.insert key v members)) := by
    cases part with
    | none => exact hm
    | some v => exact hp.insert key hm (hv v rfl)
  have ht (key : String) {members : Members} (part : Option String) (hm : P (.object members))
      (hv : ∀ text, part = some text → P (.string text)) :
      P (.object (part.elim members fun text => Members.insert key (.string text) members)) := by
    cases part with
    | none => exact hm
    | some text => exact hp.insert key hm (hv text rfl)
  exact ht "cacheKey" o.cacheKey
    (ht "error" o.error (hi "data" o.data hs h.data) h.error) h.cacheKey

theorem outcome_lookup (hp : Hereditary P) (h : o.Bears P) (hl : o.lookup path = .ok v) : P v := by
  rcases Outcome.lookup_eq_ok_iff.mp hl with hd | ⟨-, -, he⟩
  · exact hp.lookup (hp.dataOrNull h) hd
  · exact hp.lookup (hp.envelope h) he

end Json.Value.Hereditary

namespace Outcome

variable {o : Outcome}

/-- The members of the data are in order, as they are in data that was decoded or put together by
`Members.insert`. -/
def Ordered (o : Outcome) : Prop :=
  ∀ v, o.data = some v → v.Ordered

theorem Ordered.bears (h : o.Ordered) : o.Bears Value.Ordered where
  data := h
  error _ _ := trivial
  cacheKey _ _ := trivial

theorem ordered_envelope (h : o.Ordered) : o.envelope.Ordered :=
  Value.hereditary_ordered.envelope h.bears

theorem ordered_lookup {path : List String} {v : Value} (h : o.Ordered)
    (hl : o.lookup path = .ok v) : v.Ordered :=
  Value.hereditary_ordered.outcome_lookup h.bears hl

end Outcome

end Toolflow
