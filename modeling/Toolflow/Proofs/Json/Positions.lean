import Toolflow.Proofs.Json.Measures

/-!
Positions in a JSON value. A position tells, from the root on, which child to go on with; the
members of an object are counted in their order. The strings of a value are listed with their
positions: each comes once, where the value has it (`mem_texts_iff`), in the order of a traversal
(`ascending_texts`).
-/

namespace Toolflow.Json.Value

/-- The parts of an array or an object, in order. -/
def children : Value → List Value
  | .array items => items
  | .object members => members.map Prod.snd
  | _ => []

/-- The value at a position. -/
def at? (v : Value) : List Nat → Option Value
  | [] => some v
  | n :: position => v.children[n]?.bind fun c => c.at? position

/-- The strings of a child, with their positions in the value that it is the child of. -/
def inChild (n : Nat) (texts : List (List Nat × String)) : List (List Nat × String) :=
  texts.map fun t => (n :: t.1, t.2)

mutual

/-- The strings of a value with their positions. -/
def texts : Value → List (List Nat × String)
  | .string text => [([], text)]
  | .array items => itemTexts 0 items
  | .object members => memberTexts 0 members
  | _ => []

/-- Items are counted from `n` on. -/
def itemTexts (n : Nat) : List Value → List (List Nat × String)
  | [] => []
  | v :: rest => inChild n v.texts ++ itemTexts (n + 1) rest

def memberTexts (n : Nat) : List (String × Value) → List (List Nat × String)
  | [] => []
  | (_, v) :: rest => inChild n v.texts ++ memberTexts (n + 1) rest

end

@[elab_as_elim]
theorem inductChildren {motive : Value → Prop} (step : ∀ v, (∀ c ∈ v.children, motive c) → motive v)
    (v : Value) :
    motive v := by
  induction v using induct with
  | null | bool | number | string => exact step _ (List.forall_mem_nil _)
  | array items ih => exact step _ ih
  | object members ih =>
    apply step
    intro c hc
    obtain ⟨m, hm, rfl⟩ := List.mem_map.mp hc
    exact ih m hm

variable {v : Value} {position : List Nat} {text : String}

theorem itemTexts_eq (n : Nat) (items : List Value) :
    itemTexts n items = (items.zipIdx n).flatMap fun c => inChild c.2 c.1.texts := by
  induction items generalizing n with
  | nil => rfl
  | cons v rest ih => rw [itemTexts, ih, List.zipIdx_cons, List.flatMap_cons]

theorem memberTexts_eq (n : Nat) (members : Members) :
    memberTexts n members = itemTexts n (members.map Prod.snd) := by
  induction members generalizing n with
  | nil => rfl
  | cons m rest ih => rw [memberTexts, ih, List.map_cons, itemTexts]

/-- The strings of a value that is none itself are those of its children. -/
theorem texts_eq (h : v.string? = none) :
    v.texts = v.children.zipIdx.flatMap fun c => inChild c.2 c.1.texts := by
  cases v with
  | null | bool | number => rfl
  | string => cases h
  | array items => exact itemTexts_eq 0 items
  | object members => rw [texts, memberTexts_eq, itemTexts_eq, children]

theorem at?_cons_eq_some {n : Nat} {w : Value} :
    v.at? (n :: position) = some w ↔ ∃ c, v.children[n]? = some c ∧ c.at? position = some w :=
  Option.bind_eq_some_iff

theorem mem_texts_iff : (position, text) ∈ v.texts ↔ v.at? position = some (.string text) := by
  induction v using inductChildren generalizing position with
  | step v ih =>
  cases hs : v.string? with
  | some s =>
    obtain rfl := string?_eq_some_iff.mp hs
    cases position <;> simp [texts, at?, children, eq_comm]
  | none =>
    have hmem : (position, text) ∈ v.texts ↔
        ∃ n c q, v.children[n]? = some c ∧ (q, text) ∈ c.texts ∧ position = n :: q := by
      simp only [texts_eq hs, List.mem_flatMap, inChild, List.mem_map, Prod.exists, Prod.mk.injEq,
        List.mem_zipIdx_iff_getElem?]
      grind
    rw [hmem]
    cases position with
    | nil =>
      have hn : v ≠ .string text := by
        rintro rfl
        cases hs
      simp [at?, hn]
    | cons n position =>
      rw [at?_cons_eq_some]
      constructor
      · rintro ⟨_, c, _, hc, ht, he⟩
        cases he
        exact ⟨c, hc, (ih c (List.mem_of_getElem? hc)).mp ht⟩
      · rintro ⟨c, hc, ht⟩
        exact ⟨n, c, position, hc, (ih c (List.mem_of_getElem? hc)).mpr ht, rfl⟩

theorem mem_texts_of_child {c : Value} (hc : c ∈ v.children) (h : (position, text) ∈ c.texts) :
    ∃ n, (n :: position, text) ∈ v.texts := by
  obtain ⟨n, hn⟩ := List.getElem?_of_mem hc
  exact ⟨n, mem_texts_iff.mpr (at?_cons_eq_some.mpr ⟨c, hn, mem_texts_iff.mp h⟩)⟩

theorem filterMap_texts {α : Type} (h : v.string? = none) (f : String → Option α) :
    (v.texts.filterMap fun t => f t.2) =
      v.children.flatMap fun c => c.texts.filterMap fun t => f t.2 := by
  have hc := congrArg (List.flatMap fun c => c.texts.filterMap fun t => f t.2)
    (List.zipIdx_map_fst 0 v.children)
  rw [List.flatMap_map] at hc
  rw [texts_eq h, List.filterMap_flatMap]
  simp only [inChild, List.filterMap_map, Function.comp_def]
  exact hc

theorem ascending_texts (v : Value) : (v.texts.map Prod.fst).Pairwise (· < ·) := by
  induction v using inductChildren with
  | step v ih =>
  cases hs : v.string? with
  | some s =>
    obtain rfl := string?_eq_some_iff.mp hs
    exact List.pairwise_singleton _ _
  | none =>
    rw [texts_eq hs, List.pairwise_map, List.pairwise_flatMap]
    constructor
    · rintro ⟨c, n⟩ hc
      have hp := List.pairwise_map.mp
        (ih c (List.mem_of_getElem? (List.mem_zipIdx_iff_getElem?.mp hc)))
      rw [inChild, List.pairwise_map]
      exact hp.imp fun h => List.cons_lt_cons_iff.mpr (.inr ⟨rfl, h⟩)
    · have hr : (v.children.zipIdx.map Prod.snd).Pairwise (· < ·) := by
        rw [List.zipIdx_map_snd]
        exact List.pairwise_lt_range'
      refine (List.pairwise_map.mp hr).imp fun h s hs t ht => ?_
      obtain ⟨s, -, rfl⟩ := List.mem_map.mp hs
      obtain ⟨t, -, rfl⟩ := List.mem_map.mp ht
      exact List.cons_lt_cons_iff.mpr (.inl h)

end Toolflow.Json.Value
