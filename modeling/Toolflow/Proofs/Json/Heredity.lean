import Toolflow.Proofs.Json.Positions

/-!
Hereditary properties of JSON values: a value hands them down to its parts, and what is put together
of values that have them has them too. That every string of a value has a property is one
(`hereditary_everyText`), and so is the order of members (`hereditary_ordered`).
-/

namespace Toolflow.Json.Value

/-- A property that parts have if the whole has it, and that a whole has if its parts do. -/
structure Hereditary (P : Value → Prop) : Prop where
  child : ∀ {v c : Value}, P v → c ∈ v.children → P c
  null : P .null
  bool : ∀ b, P (.bool b)
  number : ∀ n, P (.number n)
  array : ∀ {items : List Value}, (∀ v ∈ items, P v) → P (.array items)
  empty : P (.object [])
  insert : ∀ {members : Members} {v : Value} (key : String), P (.object members) → P v →
    P (.object (Members.insert key v members))

/-- Every string at any depth of the value has a property. -/
def EveryText (P : String → Prop) (v : Value) : Prop :=
  ∀ position text, v.at? position = some (.string text) → P text

instance (P : String → Prop) [DecidablePred P] (v : Value) : Decidable (EveryText P v) :=
  decidable_of_iff (∀ t ∈ v.texts, P t.2)
    ⟨fun h position text hp => h (position, text) (mem_texts_iff.mpr hp),
     fun h t ht => h t.1 t.2 (mem_texts_iff.mp ht)⟩

variable {P : String → Prop} {v : Value} {text : String}

theorem everyText_string : EveryText P (.string text) ↔ P text := by
  constructor
  · intro h
    exact h [] text rfl
  · intro h position other hp
    cases position with
    | nil =>
      cases hp
      exact h
    | cons n position =>
      obtain ⟨c, hc, -⟩ := at?_cons_eq_some.mp hp
      cases hc

/-- The strings of a value that is none itself are those of its children. -/
theorem everyText_iff (h : v.string? = none) : EveryText P v ↔ ∀ c ∈ v.children, EveryText P c := by
  constructor
  · intro hv c hc position text hp
    obtain ⟨n, hn⟩ := List.getElem?_of_mem hc
    exact hv (n :: position) text (at?_cons_eq_some.mpr ⟨c, hn, hp⟩)
  · intro hc position text hp
    cases position with
    | nil =>
      obtain rfl := Option.some.inj hp
      cases h
    | cons n position =>
      obtain ⟨c, hn, hp⟩ := at?_cons_eq_some.mp hp
      exact hc c (List.mem_of_getElem? hn) position text hp

theorem everyText_object_iff {members : Members} :
    EveryText P (.object members) ↔ ∀ m ∈ members, EveryText P m.2 := by
  rw [everyText_iff rfl, children, List.forall_mem_map]

theorem hereditary_everyText (P : String → Prop) : Hereditary (EveryText P) where
  child {v c} hv hc := by
    cases hs : v.string? with
    | none => exact (everyText_iff hs).mp hv c hc
    | some text =>
      obtain rfl := string?_eq_some_iff.mp hs
      cases hc
  null := (everyText_iff rfl).mpr (List.forall_mem_nil _)
  bool _ := (everyText_iff rfl).mpr (List.forall_mem_nil _)
  number _ := (everyText_iff rfl).mpr (List.forall_mem_nil _)
  array h := (everyText_iff rfl).mpr h
  empty := (everyText_iff rfl).mpr (List.forall_mem_nil _)
  insert {members v} key hm hv := by
    rw [everyText_object_iff] at hm ⊢
    intro m hin
    obtain rfl | hin := Members.mem_insert hin
    · exact hv
    · exact hm m hin

theorem hereditary_ordered : Hereditary Ordered where
  child {v c} hv hc := by
    cases v with
    | null | bool | number | string => cases hc
    | array items => exact ordered_array_iff.mp hv c hc
    | object members =>
      obtain ⟨m, hm, rfl⟩ := List.mem_map.mp hc
      exact (ordered_object_iff.mp hv).2 m hm
  null := trivial
  bool _ := trivial
  number _ := trivial
  array h := ordered_array_iff.mpr h
  empty := ordered_object_iff.mpr ⟨List.Pairwise.nil, List.forall_mem_nil _⟩
  insert {members v} key hm hv := by
    rw [ordered_object_iff] at hm ⊢
    refine ⟨hm.1.insert, fun m hin => ?_⟩
    obtain rfl | hin := Members.mem_insert hin
    · exact hv
    · exact hm.2 m hin

end Toolflow.Json.Value
