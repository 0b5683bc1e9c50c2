import Mathlib.Data.List.Basic
import Toolflow.Proofs.Directive.Keys
import Toolflow.Proofs.Json.Positions

/-!
Resolution replaces strings and leaves the rest. Every value among the arguments has its counterpart
at the same position of the result: arrays keep their lengths, objects their keys, and a string
gives way to its replacement, into which resolution does not look. The warnings are those of the
strings in order. Main statement: `resolution_preserves_structure`.
-/

namespace Toolflow.Resolution

open Json

variable (keyPrefix : String) (history : History)

/-- What the directive of a text comes to. Ordinary text is no directive, and a key is left to the
dispatcher. -/
def answer? (text : String) : Option (Resolved Value) :=
  match Directive.read keyPrefix text with
  | .literal => none
  | .cacheKey _ => none
  | directive => some (directive.evaluate history)

/-- What a text gives way to. -/
def replacement (text : String) : Value :=
  match answer? keyPrefix history text with
  | none => .string text
  | some (.ok v) => v
  | some (.error _) => .array []

def warning? (text : String) : Option String :=
  match answer? keyPrefix history text with
  | none => none
  | some (.ok _) => none
  | some (.error e) => some (text ++ ": " ++ e.message)

/-- What becomes of a value, apart from its children. -/
def Counterpart : Value → Value → Prop
  | .string text, result => result = replacement keyPrefix history text
  | .array items, .array results => results.length = items.length
  | .object members, .object results => Members.keys results = Members.keys members
  | v, result => result = v

variable {keyPrefix history} {v w : Value} {position : List Nat}

theorem resolve_string (text : String) : resolve keyPrefix history (.string text) =
    (replacement keyPrefix history text, (warning? keyPrefix history text).toList) := by
  rw [resolve, replacement, warning?]
  cases hr : Directive.read keyPrefix text with
  | literal => simp only [resolveText, answer?, hr, Option.toList]
  | cacheKey key =>
    obtain rfl := Directive.eq_of_read_eq_cacheKey hr
    simp only [resolveText_cacheKey hr, answer?, hr, Option.toList]
  | _ =>
    simp only [resolveText, answer?, hr]
    split <;> simp only [*, Option.toList]

theorem resolveItems_eq (items : List Value) : resolveItems keyPrefix history items =
    (items.map fun v => (resolve keyPrefix history v).1,
      items.flatMap fun v => (resolve keyPrefix history v).2) := by
  induction items with
  | nil => rfl
  | cons v rest ih => simp only [resolveItems, ih, List.map_cons, List.flatMap_cons]

theorem resolveMembers_eq (members : Members) : resolveMembers keyPrefix history members =
    (members.map fun m => (m.1, (resolve keyPrefix history m.2).1),
      members.flatMap fun m => (resolve keyPrefix history m.2).2) := by
  induction members with
  | nil => rfl
  | cons m rest ih => simp only [resolveMembers, ih, List.map_cons, List.flatMap_cons]

theorem children_resolve (h : v.string? = none) :
    (resolve keyPrefix history v).1.children =
      v.children.map fun c => (resolve keyPrefix history c).1 := by
  cases v with
  | null | bool | number => rfl
  | string => cases h
  | array items => simp only [resolve, resolveItems_eq, Value.children]
  | object members =>
    simp only [resolve, resolveMembers_eq, Value.children, List.map_map, Function.comp_def]

theorem warnings_resolve (h : v.string? = none) :
    (resolve keyPrefix history v).2 =
      v.children.flatMap fun c => (resolve keyPrefix history c).2 := by
  cases v with
  | null | bool | number => rfl
  | string => cases h
  | array items => simp only [resolve, resolveItems_eq, Value.children]
  | object members => simp only [resolve, resolveMembers_eq, Value.children, List.flatMap_map]

theorem counterpart_resolve (v : Value) :
    Counterpart keyPrefix history v (resolve keyPrefix history v).1 := by
  cases v with
  | null | bool | number => rfl
  | string text => rw [resolve_string, Counterpart]
  | array items => simp [resolve, resolveItems_eq, Counterpart]
  | object members => simp [resolve, resolveMembers_eq, Counterpart, Members.keys]

/-- A string has no position below it, so what is put in its place is not reached. -/
theorem at?_resolve (h : v.at? position = some w) :
    (resolve keyPrefix history v).1.at? position = some (resolve keyPrefix history w).1 := by
  induction position generalizing v with
  | nil =>
    cases h
    rfl
  | cons n position ih =>
    obtain ⟨c, hc, hw⟩ := Value.at?_cons_eq_some.mp h
    have hs : v.string? = none := by
      cases v with
      | string => cases hc
      | _ => rfl
    rw [Value.at?_cons_eq_some, children_resolve hs, List.getElem?_map, hc]
    exact ⟨_, rfl, ih hw⟩

theorem warnings_eq (v : Value) :
    (resolve keyPrefix history v).2 =
      v.texts.filterMap fun t => warning? keyPrefix history t.2 := by
  induction v using Value.inductChildren with
  | step v ih =>
  cases hs : v.string? with
  | some text =>
    obtain rfl := Value.string?_eq_some_iff.mp hs
    rw [resolve_string, Value.texts, List.filterMap_cons]
    cases warning? keyPrefix history text <;> rfl
  | none =>
    rw [warnings_resolve hs, Value.filterMap_texts hs]
    exact List.flatMap_congr ih

section Congruence

variable {other : History}

theorem resolveItems_congr {items : List Value}
    (h : ∀ v ∈ items, resolve keyPrefix other v = resolve keyPrefix history v) :
    resolveItems keyPrefix other items = resolveItems keyPrefix history items := by
  induction items with
  | nil => rfl
  | cons v rest ih =>
    obtain ⟨hv, hr⟩ := List.forall_mem_cons.mp h
    rw [resolveItems, resolveItems, hv, ih hr]

theorem resolveMembers_congr {members : Members}
    (h : ∀ m ∈ members, resolve keyPrefix other m.2 = resolve keyPrefix history m.2) :
    resolveMembers keyPrefix other members = resolveMembers keyPrefix history members := by
  induction members with
  | nil => rfl
  | cons m rest ih =>
    obtain ⟨hm, hr⟩ := List.forall_mem_cons.mp h
    rw [resolveMembers, resolveMembers, hm, ih hr]

/-- Of a history, resolution uses only what the directives in the value come to. -/
theorem resolve_congr
    (h : ∀ position text, (position, text) ∈ v.texts →
      (Directive.read keyPrefix text).evaluate other =
        (Directive.read keyPrefix text).evaluate history) :
    resolve keyPrefix other v = resolve keyPrefix history v := by
  induction v using Value.inductChildren with
  | step v ih =>
  have hc : ∀ c ∈ v.children, resolve keyPrefix other c = resolve keyPrefix history c := by
    intro c hm
    apply ih c hm
    intro position text ht
    obtain ⟨n, hn⟩ := Value.mem_texts_of_child hm ht
    exact h _ text hn
  cases v with
  | null | bool | number => rfl
  | string text =>
    have ht := h [] text (List.mem_singleton.mpr rfl)
    rw [resolve, resolve, resolveText, resolveText]
    cases hr : Directive.read keyPrefix text with
    | literal => rfl
    | _ =>
      rw [hr] at ht
      simp only [ht]
  | array items =>
    have hi : ∀ c ∈ items, resolve keyPrefix other c = resolve keyPrefix history c := hc
    rw [resolve, resolve, resolveItems_congr hi]
  | object members =>
    rw [resolve, resolve, resolveMembers_congr fun m hm => hc m.2 (List.mem_map_of_mem hm)]

end Congruence

/-- Every part of the arguments has its counterpart in the result, there is one warning for each
string whose directive fails, in the order of the strings, and of the history only what the
directives come to matters. -/
theorem resolution_preserves_structure (keyPrefix : String) (history : History) (args : Members) :
    let r := resolveMembers keyPrefix history args
    (∀ position v, (Value.object args).at? position = some v →
      ∃ w, (Value.object r.1).at? position = some w ∧ Counterpart keyPrefix history v w) ∧
    r.2 = (Value.object args).texts.filterMap (fun t => warning? keyPrefix history t.2) ∧
    (∀ position text, (position, text) ∈ (Value.object args).texts ↔
      (Value.object args).at? position = some (.string text)) ∧
    ((Value.object args).texts.map Prod.fst).Pairwise (· < ·) ∧
    ∀ other : History,
      (∀ position text, (position, text) ∈ (Value.object args).texts →
        (Directive.read keyPrefix text).evaluate other =
          (Directive.read keyPrefix text).evaluate history) →
      resolveMembers keyPrefix other args = r := by
  intro r
  have hr (history : History) : resolve keyPrefix history (.object args) =
      (.object (resolveMembers keyPrefix history args).1,
        (resolveMembers keyPrefix history args).2) := by
    rw [resolve]
  refine ⟨?_, ?_, fun _ _ => Value.mem_texts_iff, Value.ascending_texts _, ?_⟩
  · intro position v hv
    have hw : (resolve keyPrefix history (.object args)).1.at? position =
        some (resolve keyPrefix history v).1 :=
      at?_resolve hv
    rw [hr] at hw
    exact ⟨_, hw, counterpart_resolve v⟩
  · have hw : (resolve keyPrefix history (.object args)).2 =
        (Value.object args).texts.filterMap fun t => warning? keyPrefix history t.2 := warnings_eq _
    rwa [hr] at hw
  · intro other h
    have hc := resolve_congr h
    rw [hr, hr] at hc
    obtain ⟨hm, hw⟩ := Prod.mk.inj hc
    exact Prod.ext (Value.object.inj hm) hw

/-- Data that looks like a directive is not resolved in turn. -/
example :
    resolveMembers "cache:" [.executed .queryDatabase []
      (.ok (.object [("note", .string "LAST_RESULT")]))]
        [("notes", .array [.string "EXTRACT_0.note", .string "EXTRACT_1.note", .string "note"])] =
      ([("notes", .array [.string "LAST_RESULT", .array [], .string "note"])],
        ["EXTRACT_1.note: result index 1 out of range (history has 1 entries)"]) := by
  rfl

end Toolflow.Resolution
