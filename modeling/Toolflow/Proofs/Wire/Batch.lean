import Toolflow.Proofs.Except
import Toolflow.Wire.Batch

/-!
What a value looks like that decodes. A decoder that runs through its parts succeeds only if it does
on each of them, so the steps of a batch all decode, and the name of a step is that of a tool. Main
statements: `exists_step_of_batch`, `name_of_step`.
-/

namespace Toolflow

open Json

theorem ToolName.ofText?_eq_some_iff {text : String} {name : ToolName} :
    ofText? text = some name ↔ name.text = text := by
  constructor
  · intro h
    simpa using List.find?_some h
  · rintro rfl
    exact ofText?_text name

theorem ToolName.ofText?_eq_none_iff {text : String} :
    ofText? text = none ↔ ∀ name : ToolName, name.text ≠ text := by
  rw [Option.eq_none_iff_forall_ne_some]
  simp only [ne_eq, ofText?_eq_some_iff]

namespace Wire

variable {α : Type}

theorem require_eq_ok {name : String} {x? : Option α} {x : α} :
    require name x? = .ok x ↔ x? = some x := by
  cases x? <;> simp [require]

theorem field?_eq_some {decode : Decoder α} {members : Members} {name : String} {x : α}
    (h : field? decode members name = .ok (some x)) :
    ∃ v, Members.get? members name = some v ∧ decode v = .ok x := by
  unfold field? at h
  split at h
  · next v hv =>
    obtain ⟨y, hy, hxy⟩ := map_eq_ok.mp h
    obtain rfl := Option.some.inj hxy
    exact ⟨v, hv, hy⟩
  · cases h

theorem field?_eq_none {decode : Decoder α} {members : Members} {name : String}
    (h : field? decode members name = .ok none) : Members.get? members name = none := by
  unfold field? at h
  split at h
  · obtain ⟨y, -, hy⟩ := map_eq_ok.mp h
    cases hy
  · next hn => exact hn

/-- All steps of a batch decode, if they are given in an object. -/
theorem exists_step_of_batch {members : Members} {b : Batch} {items : List Value}
    (h : batch (.object members) = .ok b)
    (hf : Members.get? members "functions" = some (.array items)) :
    ∀ v ∈ items, ∃ s, step v = .ok s := by
  obtain ⟨description, -, h⟩ := bind_eq_ok.mp h
  obtain ⟨steps?, hs, h⟩ := bind_eq_ok.mp h
  obtain ⟨steps, hr, -⟩ := bind_eq_ok.mp h
  rw [require_eq_ok.mp hr] at hs
  obtain ⟨v, hv, hd⟩ := field?_eq_some hs
  obtain rfl := Option.some.inj (hf.symm.trans hv)
  exact exists_of_mapM hd

theorem toolName_string {text : String} {name : ToolName} :
    toolName (.string text) = .ok name ↔ name.text = text := by
  rw [← ToolName.ofText?_eq_some_iff, toolName, toolNameOf]
  cases ToolName.ofText? text <;> simp

/-- The name of a step stands under `name`, or under `toolName` if there is nothing under `name`. -/
theorem stepName?_eq_some {members : Members} {name : ToolName}
    (h : stepName? members = .ok (some name)) :
    ∃ v, (Members.get? members "name").or (Members.get? members "toolName") = some v ∧
      toolName v = .ok name := by
  obtain ⟨name?, hn, h⟩ := bind_eq_ok.mp h
  split at h
  · cases h
  · obtain rfl := Option.some.inj (Except.ok.inj h)
    obtain ⟨v, hv, hd⟩ := field?_eq_some hn
    exact ⟨v, by rw [hv, Option.some_or], hd⟩
  · next v ht =>
    obtain ⟨name', hd, hname⟩ := map_eq_ok.mp h
    obtain rfl := Option.some.inj hname
    exact ⟨v, by rw [field?_eq_none hn, Option.none_or, ht], hd⟩
  · cases h

theorem name_of_step {members : Members} {s : Step} (h : step (.object members) = .ok s) :
    ∃ v, (Members.get? members "name").or (Members.get? members "toolName") = some v ∧
      toolName v = .ok s.name := by
  obtain ⟨args, -, h⟩ := bind_eq_ok.mp h
  obtain ⟨condition, -, h⟩ := bind_eq_ok.mp h
  obtain ⟨name?, hn, h⟩ := bind_eq_ok.mp h
  obtain ⟨rule, -, h⟩ := bind_eq_ok.mp h
  obtain ⟨name, hr, h⟩ := bind_eq_ok.mp h
  obtain rfl := Except.ok.inj h
  rw [require_eq_ok.mp hr] at hn
  exact stepName?_eq_some hn

end Wire

end Toolflow
