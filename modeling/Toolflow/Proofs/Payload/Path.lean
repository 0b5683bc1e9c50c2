import Toolflow.Resolution.Lookup

/-!
Where paths lead. A path that consists of keys and indexes only leads to a part of the payload, and
longer paths go on from there (`Leads.lookup_append`); a path that fails fails in the same way
however it goes on (`lookup_append_of_error`). What the last segment may ask of an array is the only
other way to find something (`lookup_cons_eq_ok`), so looking up a path and from there another is
looking up the two as one (`lookup_composes`).
-/

namespace Toolflow

open Json

namespace Payload

/-- The path enters objects by key and arrays by index all the way to the second value. -/
inductive Leads : Value → List String → Value → Prop
  | nil (v : Value) : Leads v [] v
  | key {members : Members} {key : String} {path : List String} {v w : Value}
    (hv : Members.get? members key = some v)
      (hw : Leads v path w) : Leads (.object members) (key :: path) w
  | index {items : List Value} {segment : String} {index : Nat} {path : List String} {v w : Value}
      (hi : Text.readCount? segment.toList = some index) (hv : items[index]? = some v)
        (hw : Leads v path w) :
      Leads (.array items) (segment :: path) w

variable {v w : Value} {segment : String} {path rest : List String} {error : PathError}

theorem Leads.lookup_append (h : Leads v path w) (rest : List String) :
    lookup v (path ++ rest) = lookup w rest := by
  induction h with
  | nil => rfl
  | key hv _ ih =>
    rw [List.cons_append, lookup, hv]
    exact ih
  | index hi hv _ ih =>
    rw [List.cons_append, lookup, hi]
    dsimp only
    rw [hv]
    exact ih

theorem lookup_append_of_error (h : lookup v path = .error error) (rest : List String) :
    lookup v (path ++ rest) = .error error := by
  induction path generalizing v with
  | nil => cases h
  | cons segment path ih =>
    rw [List.cons_append]
    unfold lookup at h ⊢
    split at h
    · split at h
      · exact ih h
      · exact h
    · split at h
      · split at h
        · exact ih h
        · exact h
      · by_cases hn : path ++ rest = []
        · rw [if_pos hn]
          rwa [if_pos (List.append_eq_nil_iff.mp hn).1] at h
        · rw [if_neg hn]
          split at h
          · cases h
          · exact h
    · exact h

theorem lookup_of_member? (h : v.member? segment = some w) (path : List String) :
    lookup v (segment :: path) = lookup w path := by
  cases v with
  | object members => exact Leads.lookup_append (.key h (.nil w)) path
  | null | bool | number | string | array => cases h

theorem Leads.lookup_eq (h : Leads v path w) : lookup v path = .ok w := by
  have hl := h.lookup_append []
  rwa [List.append_nil] at hl

theorem Leads.cons {u : Value} (h : Leads v [segment] u) (hr : Leads u path w) :
    Leads v (segment :: path) w := by
  cases h with
  | key hv hn =>
    cases hn
    exact .key hv hr
  | index hi hv hn =>
    cases hn
    exact .index hi hv hr

theorem segment_of_arrayProperty? {items : List Value} (h : arrayProperty? items segment = some v) :
    segment = "id" ∨ segment = "length" := by
  unfold arrayProperty? at h
  split at h
  · next hl => exact .inr hl
  · split at h
    · next hi => exact .inl hi
    · cases h

/-- The first segment leads on, or it is the last one and asks something of an array. -/
theorem lookup_cons_eq_ok (h : lookup v (segment :: path) = .ok w) :
    (∃ u, Leads v [segment] u ∧ lookup u path = .ok w) ∨
      path = [] ∧ ∃ items, v = .array items ∧ arrayProperty? items segment = some w := by
  unfold lookup at h
  split at h
  · split at h
    · next hv => exact .inl ⟨_, .key hv (.nil _), h⟩
    · cases h
  · split at h
    · next hi =>
      split at h
      · next hv => exact .inl ⟨_, .index hi hv (.nil _), h⟩
      · cases h
    · split at h
      · next ha =>
        cases h
        split at ha
        · next hp => exact .inr ⟨hp, _, rfl, ha⟩
        · cases ha
      · cases h
  · cases h

theorem exists_leads_of_append (hn : rest ≠ []) (h : lookup v (path ++ rest) = .ok w) :
    ∃ u, Leads v path u ∧ lookup u rest = .ok w := by
  induction path generalizing v with
  | nil => exact ⟨v, .nil v, h⟩
  | cons segment path ih =>
    obtain ⟨u, hu, h⟩ | ⟨he, -⟩ := lookup_cons_eq_ok h
    · obtain ⟨t, ht, h⟩ := ih h
      exact ⟨t, hu.cons ht, h⟩
    · exact absurd (List.append_eq_nil_iff.mp he).2 hn

theorem leads_of_lookup (h : lookup v path = .ok w) (hid : path.getLast? ≠ some "id")
    (hlength : path.getLast? ≠ some "length") : Leads v path w := by
  induction path generalizing v with
  | nil =>
    cases h
    exact .nil _
  | cons segment path ih =>
    obtain ⟨u, hu, h⟩ | ⟨rfl, items, -, ha⟩ := lookup_cons_eq_ok h
    · have hlast (name : String) (hne : (segment :: path).getLast? ≠ some name) :
          path.getLast? ≠ some name := by
        intro he
        rw [List.getLast?_cons, he] at hne
        exact hne rfl
      exact hu.cons (ih h (hlast "id" hid) (hlast "length" hlength))
    · obtain rfl | rfl := segment_of_arrayProperty? ha
      · exact absurd rfl hid
      · exact absurd rfl hlength

/-- What a longer path finds is found from where its beginning leads. The other way round, a path
goes on from where another ends, also where it fails from there, unless that one ends by asking
something of an array; and where it fails, so does every path that begins with it. -/
theorem lookup_composes (v : Value) (path rest : List String) :
    (rest ≠ [] → ∀ w, lookup v (path ++ rest) = .ok w →
      ∃ u, lookup v path = .ok u ∧ lookup u rest = .ok w) ∧
    (∀ u, lookup v path = .ok u → path.getLast? ≠ some "id" → path.getLast? ≠ some "length" →
      lookup v (path ++ rest) = lookup u rest) ∧
    ∀ error, lookup v path = .error error → lookup v (path ++ rest) = .error error := by
  refine ⟨?_, ?_, fun error h => lookup_append_of_error h rest⟩
  · intro hn w h
    obtain ⟨u, hu, hw⟩ := exists_leads_of_append hn h
    exact ⟨u, hu.lookup_eq, hw⟩
  · intro u hu hid hlength
    exact (leads_of_lookup hu hid hlength).lookup_append rest

/-- Past an array by an index to the identifiers of another one, and past a string to nowhere. -/
theorem lookup_composes_rehearsed :
    let trades := Value.array [.object [("id", .string "t1")], .string "t2"]
    let payload := Value.object [("pages", .array [.null, .object [("trades", trades)]])]
    let ids := Value.array [.string "t1", .string "t2"]
    (∃ u, lookup payload ["pages", "1"] = .ok u ∧ lookup u ["trades", "id"] = .ok ids) ∧
      lookup payload ["pages", "1", "trades", "1", "x"] = lookup (.string "t2") ["x"] ∧
      lookup payload ["pages", "2", "trades"] = .error (.indexOutOfRange 2 2) := by
  intro trades payload ids
  obtain ⟨hsplit, -, -⟩ := lookup_composes payload ["pages", "1"] ["trades", "id"]
  obtain ⟨-, hjoin, -⟩ := lookup_composes payload ["pages", "1", "trades", "1"] ["x"]
  obtain ⟨-, -, hfail⟩ := lookup_composes payload ["pages", "2"] ["trades"]
  exact ⟨hsplit (by decide) ids rfl, hjoin (.string "t2") rfl (by decide) (by decide), hfail _ rfl⟩

end Payload

namespace Outcome

variable {o : Outcome} {path rest : List String} {v w : Value} {error : Payload.PathError}

theorem lookup_eq_ok_iff : o.lookup path = .ok v ↔ Payload.lookup o.dataOrNull path = .ok v ∨
    (∃ error, Payload.lookup o.dataOrNull path = .error error) ∧
      path.head?.any envelopeKeys.contains = true ∧
      Payload.lookup o.envelope path = .ok v := by
  unfold Outcome.lookup
  cases Payload.lookup o.dataOrNull path with
  | ok u => simp
  | error e =>
    cases path.head?.any envelopeKeys.contains with
    | false => simp
    | true => cases Payload.lookup o.envelope path <;> simp

/-- Where both fail, the error is that of the data. -/
theorem lookup_of_error (he : Payload.lookup o.dataOrNull path = .error error)
    (hn : ∀ v, Payload.lookup o.envelope path ≠ .ok v) : o.lookup path = .error error := by
  rw [Outcome.lookup, he]
  cases hv : Payload.lookup o.envelope path with
  | ok v => exact absurd hv (hn v)
  | error => simp

/-- The path leads there from the data, or, if the data does not have it, from the envelope. -/
def Leads (o : Outcome) (path : List String) (v : Value) : Prop :=
  Payload.Leads o.dataOrNull path v ∨
    (∃ error, Payload.lookup o.dataOrNull path = .error error) ∧
      path.head?.any envelopeKeys.contains = true ∧
      Payload.Leads o.envelope path v

theorem Leads.lookup_append (h : o.Leads path v) (hv : Payload.lookup v rest = .ok w) :
    o.lookup (path ++ rest) = .ok w := by
  rw [lookup_eq_ok_iff]
  rcases h with h | ⟨⟨error, he⟩, hh, h⟩
  · exact .inl ((h.lookup_append rest).trans hv)
  · have hr : (path ++ rest).head?.any envelopeKeys.contains = true := by
      cases path with
      | nil => cases hh
      | cons segment path => exact hh
    exact .inr ⟨⟨error, Payload.lookup_append_of_error he rest⟩, hr,
      (h.lookup_append rest).trans hv⟩

end Outcome

end Toolflow
