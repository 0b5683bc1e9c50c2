import Toolflow.Payload.Identifier

/-!
Identifiers of values. An object may offer several, one under each identifier key, but only the
first of the keys that it has is looked at: where that holds neither string nor number, what the
object offers under the others is not seen (`shadowed_iff`).
-/

namespace Toolflow.Payload

open Json

/-- Strings and numbers offer themselves, and objects those that they hold under an identifier
key. -/
inductive Offers : Value → Value → Prop
  | itself {v identifier : Value} (h : asIdentifier? v = some identifier) : Offers v identifier
  | member {members : Members} {key : String} {v identifier : Value} (hk : key ∈ identifierKeys)
      (hv : Members.get? members key = some v) (h : asIdentifier? v = some identifier) :
        Offers (.object members) identifier

/-- An object offers an identifier, but not under the first identifier key that it has. -/
def Shadowed (v : Value) : Prop :=
  (∃ identifier, Offers v identifier) ∧ ∃ members first, v = .object members ∧
    identifierKeys.findSome? (Members.get? members) = some first ∧ asIdentifier? first = none

variable {v identifier : Value}

theorem eq_of_asIdentifier? (h : asIdentifier? v = some identifier) : identifier = v := by
  unfold asIdentifier? at h
  split at h <;> cases h <;> rfl

theorem offers_of_identifier? (h : identifier? v = some identifier) : Offers v identifier := by
  cases v with
  | null | bool | number | string | array => exact .itself h
  | object members =>
    obtain ⟨w, hw, h⟩ := Option.bind_eq_some_iff.mp h
    obtain ⟨key, hk, hv⟩ := List.exists_of_findSome?_eq_some hw
    exact .member hk hv h

theorem identifier?_eq_asIdentifier? (h : ∀ members, v ≠ .object members) :
    identifier? v = asIdentifier? v := by
  cases v with
  | null | bool | number | string | array => rfl
  | object members => exact absurd rfl (h members)

theorem shadowed_iff : Shadowed v ↔ (∃ identifier, Offers v identifier) ∧ identifier? v = none := by
  refine and_congr_right fun ⟨identifier, ho⟩ => ?_
  constructor
  · rintro ⟨members, first, rfl, hf, hn⟩
    rw [identifier?, hf, Option.bind_some, hn]
  · intro hi
    cases ho with
    | itself h =>
      have hv : ∀ members, v ≠ .object members := by
        rintro members rfl
        cases h
      rw [identifier?_eq_asIdentifier? hv, h] at hi
      cases hi
    | @member members key w _ hk hv h =>
      cases hf : identifierKeys.findSome? (Members.get? members) with
      | none =>
        rw [List.findSome?_eq_none_iff.mp hf key hk] at hv
        cases hv
      | some first =>
        rw [identifier?, hf, Option.bind_some] at hi
        exact ⟨members, first, rfl, hf, hi⟩

theorem not_shadowed (h : identifier? v = some identifier) : ¬ Shadowed v := by
  intro hs
  rw [(shadowed_iff.mp hs).2] at h
  cases h

theorem string_or_number (h : identifier? v = some identifier) :
    (∃ text, identifier = .string text) ∨ ∃ n, identifier = .number n := by
  obtain ⟨w, hw⟩ : ∃ w, asIdentifier? w = some identifier := by
    cases offers_of_identifier? h with
    | itself h | member _ _ h => exact ⟨_, h⟩
  obtain rfl := eq_of_asIdentifier? hw
  cases identifier with
  | string s => exact .inl ⟨s, rfl⟩
  | number n => exact .inr ⟨n, rfl⟩
  | null | bool | array | object => cases hw

end Toolflow.Payload
