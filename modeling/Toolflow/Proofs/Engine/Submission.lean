import Toolflow.Engine.Submission
import Toolflow.Proofs.Engine.Refusal
import Toolflow.Proofs.Wire.Batch

/-!
Submitted batches. The names of the steps are looked through before the batch is decoded, and that
never stands in the way of a batch that decodes; of one that does not, it tells the first step that
names no tool. Main statement: `submit_agrees`.
-/

namespace Toolflow

open Json

/-- A submitted step is an object whose `name`, or whose `toolName` if it has no `name`, is a text
that names no tool. -/
structure NamesNoTool (step : Value) (text : String) : Prop where
  submitted : step.member? "name" = some (.string text) ∨
    step.member? "name" = none ∧ step.member? "toolName" = some (.string text)
  unknown : ∀ tool : ToolName, tool.text ≠ text

/-- The step at a position, from 1, is the first of a submission that names no tool. -/
def FirstUnnamed (v : Value) (position : Nat) (text : String) : Prop :=
  ∃ before step after, v.member? "functions" = some (.array (before ++ step :: after)) ∧
    (∀ u ∈ before, ∀ other, ¬ NamesNoTool u other) ∧ NamesNoTool step text ∧
      position = before.length + 1

/-- What the run of a batch is told as. -/
def outcomeOf : Except BatchError Report → Outcome
  | .ok report => report.outcome
  | .error error => error.outcome

theorem submittedName?_eq_some_iff {step : Value} {text : String} :
    submittedName? step = some text ↔ step.member? "name" = some (.string text) ∨
      step.member? "name" = none ∧ step.member? "toolName" = some (.string text) := by
  simp [submittedName?, Option.bind_eq_some_iff, Option.or_eq_some_iff]

/-- The name of a submitted step, if no tool has it. -/
def unmatchedName? (step : Value) : Option String :=
  (submittedName? step).filter fun name => (ToolName.ofText? name).isNone

theorem unmatchedName?_eq_some_iff {step : Value} {text : String} :
    unmatchedName? step = some text ↔ NamesNoTool step text := by
  rw [unmatchedName?, Option.filter_eq_some_iff, submittedName?_eq_some_iff,
    Option.isNone_iff_eq_none, ToolName.ofText?_eq_none_iff]
  exact ⟨fun h => ⟨h.1, h.2⟩, fun h => ⟨h.submitted, h.unknown⟩⟩

theorem unmatchedName?_eq_none_iff {step : Value} :
    unmatchedName? step = none ↔ ∀ text, ¬ NamesNoTool step text := by
  rw [Option.eq_none_iff_forall_ne_some]
  simp only [ne_eq, unmatchedName?_eq_some_iff]

theorem searches_unknownName? :
    Searches unmatchedName? (fun _ name n => (name, n)) unknownName? where
  nil _ := rfl
  cons n step rest := by
    rw [unknownName?, ← unmatchedName?]
    cases unmatchedName? step <;> rfl

theorem unknownName?_eq_some_iff {v : Value} {text : String} {n : Nat} :
    unknownName? 1 (((v.member? "functions").bind Value.array?).getD []) = some (text, n) ↔
      FirstUnnamed v n text := by
  rw [searches_unknownName?.eq_some_iff]
  simp only [unmatchedName?_eq_none_iff, unmatchedName?_eq_some_iff, Prod.mk.injEq]
  constructor
  · rintro ⟨before, step, after, name, hs, hb, hn, rfl, rfl⟩
    refine ⟨before, step, after, ?_, hb, hn, Nat.add_comm ..⟩
    cases hv : (v.member? "functions").bind Value.array? with
    | none => simp [hv] at hs
    | some items =>
      rw [hv, Option.getD_some] at hs
      obtain ⟨w, hw, ha⟩ := Option.bind_eq_some_iff.mp hv
      rw [hw, Value.array?_eq_some_iff.mp ha, hs]
  · rintro ⟨before, step, after, hv, hb, hn, rfl⟩
    refine ⟨before, step, after, text, ?_, hb, hn, rfl, Nat.add_comm ..⟩
    rw [hv]
    rfl

/-- The name of a step that decodes is that of a tool, wherever and in whatever form it stands. -/
theorem not_namesNoTool_of_step {v : Value} {step : Step} (h : Wire.step v = .ok step)
    (text : String) :
    ¬ NamesNoTool v text := by
  intro hn
  cases v with
  | object members =>
    obtain ⟨w, hw, ht⟩ := Wire.name_of_step h
    have hs : (Members.get? members "name").or (Members.get? members "toolName") =
        some (.string text) :=
      Option.or_eq_some_iff.mpr hn.submitted
    obtain rfl := Option.some.inj (hs.symm.trans hw)
    exact hn.unknown _ (Wire.toolName_string.mp ht)
  | null | bool _ | number _ | string _ | array _ => simpa [Value.member?] using hn.submitted

theorem ofValue_eq_ok_iff {v : Value} {batch : Batch} :
    Batch.ofValue v = .ok batch ↔ Wire.batch v = .ok batch := by
  rw [Batch.ofValue]
  cases Wire.batch v <;> simp [Except.mapError]

theorem not_firstUnnamed_of_ofValue {v : Value} {batch : Batch}
    (h : Batch.ofValue v = .ok batch) (n : Nat) (text : String) : ¬ FirstUnnamed v n text := by
  rintro ⟨before, step, after, hf, -, hn, -⟩
  cases v with
  | object members =>
    obtain ⟨s, hs⟩ := Wire.exists_step_of_batch
      (ofValue_eq_ok_iff.mp h) hf step List.mem_append_cons_self
    exact not_namesNoTool_of_step hs text hn
  | null | bool _ | number _ | string _ | array _ => cases hf

theorem ofSubmission_of_firstUnnamed {v : Value} {n : Nat} {text : String}
    (h : FirstUnnamed v n text) :
    Batch.ofSubmission v = .error (.invalidStep (.unknownTool text) ⟨[], text, n⟩) := by
  rw [Batch.ofSubmission, unknownName?_eq_some_iff.mpr h]

theorem ofSubmission_of_not_firstUnnamed {v : Value} (h : ∀ n text, ¬ FirstUnnamed v n text) :
    Batch.ofSubmission v = (Batch.ofValue v).mapError .rejected := by
  rw [Batch.ofSubmission]
  split
  · next text n hu => exact absurd (unknownName?_eq_some_iff.mp hu) (h n text)
  · rfl

theorem message_invalidStep (error : EngineError) (stop : Stop) :
    (BatchError.invalidStep error stop).message =
      error.message ++ (" (step " ++ stop.position.repr ++ ")") :=
  rfl

/-- The outcome of an unknown name tells the name and the position. -/
theorem outcome_unknownTool_inj {text text' : String} {n n' : Nat}
    (h : (BatchError.invalidStep (.unknownTool text) ⟨[], text, n⟩).outcome =
      (BatchError.invalidStep (.unknownTool text') ⟨[], text', n'⟩).outcome) :
    text = text' ∧ n = n' := by
  have hd : some (Wire.encodeStop ⟨[], text, n⟩) = some (Wire.encodeStop ⟨[], text', n'⟩) :=
    congrArg Outcome.data h
  have ht : text = text' := by
    simp only [Wire.encodeStop, Option.some.injEq, Value.object.injEq, List.cons.injEq,
      Prod.mk.injEq, Value.string.injEq] at hd
    exact hd.2.2.1.2
  subst ht
  have hm := Option.some.inj (congrArg Outcome.error h)
  rw [message_invalidStep, message_invalidStep, String.append_right_inj, String.append_left_inj,
    String.append_right_inj, Nat.repr, Nat.repr, String.ofList_inj] at hm
  have hn := congrArg (fun digits => Nat.ofDigitChars 10 digits 0) hm
  simp only [Nat.ofDigitChars_ten_toDigits] at hn
  exact ⟨rfl, hn⟩

/-- A submission that decodes as a batch has the outcome of its run. One that does not has that of a
failure and leaves the session as it was, and an unknown name is reported for the first step that
names no tool, if there is one. -/
theorem submit_agrees (e : Engine) (v : Value) (s : Session) :
    (∀ batch, Batch.ofValue v = .ok batch →
      e.submit v s = (outcomeOf (e.run batch s).1, (e.run batch s).2)) ∧
    ∀ error, Batch.ofValue v = .error error → (e.submit v s).2 = s ∧
      (e.submit v s).1.success = false ∧
      ∀ n text, (e.submit v s).1 =
        (BatchError.invalidStep (.unknownTool text) ⟨[], text, n⟩).outcome ↔
          FirstUnnamed v n text := by
  constructor
  · intro batch h
    have hs : Batch.ofSubmission v = .ok batch := by
      rw [ofSubmission_of_not_firstUnnamed (not_firstUnnamed_of_ofValue h), h]
      rfl
    rw [Engine.submit, hs]
    rcases hr : e.run batch s with ⟨error | report, s'⟩ <;> simp only [hr, outcomeOf]
  · intro error h
    by_cases hu : ∃ n text, FirstUnnamed v n text
    · obtain ⟨n, text, hu⟩ := hu
      have hs := ofSubmission_of_firstUnnamed hu
      rw [Engine.submit, hs]
      refine ⟨rfl, rfl, fun n' text' => ⟨fun ho => ?_, fun hu' => ?_⟩⟩
      · obtain ⟨rfl, rfl⟩ := outcome_unknownTool_inj ho
        exact hu
      · rw [ofSubmission_of_firstUnnamed hu'] at hs
        cases hs
        rfl
    · have hn : ∀ n text, ¬ FirstUnnamed v n text := fun n text h => hu ⟨n, text, h⟩
      have hs : Batch.ofSubmission v = .error (.rejected error) := by
        rw [ofSubmission_of_not_firstUnnamed hn, h]
        rfl
      rw [Engine.submit, hs]
      -- The batch is rejected as a whole, and then the outcome has no data.
      refine ⟨rfl, rfl, fun n text => ⟨fun ho => ?_, fun hu' => absurd hu' (hn n text)⟩⟩
      have hd := congrArg Outcome.data ho
      cases hd

/-- A submission of two steps, named in different ways. -/
def rehearsedSubmission (second : String) : Value :=
  .object [("functions", .array [.object [("name", .object [("queryDatabase", .null)])],
    .object [("toolName", .string second)]])]

theorem submit_agrees_rehearsed :
    let e := Engine.rehearsal {} [{ name := .queryDatabase }]
    let s := Session.start {}
    (∃ batch, Batch.ofValue (rehearsedSubmission "queryDatabase") = .ok batch ∧
      e.submit (rehearsedSubmission "queryDatabase") s =
        (outcomeOf (e.run batch s).1, (e.run batch s).2)) ∧
    ∃ error, Batch.ofValue (rehearsedSubmission "dropTables") = .error error ∧
      (e.submit (rehearsedSubmission "dropTables") s).2 = s ∧
      (e.submit (rehearsedSubmission "dropTables") s).1 =
        (BatchError.invalidStep (.unknownTool "dropTables") ⟨[], "dropTables", 2⟩).outcome := by
  intro e s
  have hf : FirstUnnamed (rehearsedSubmission "dropTables") 2 "dropTables" := by
    refine ⟨[_], _, [], rfl, ?_, ⟨.inr ⟨rfl, rfl⟩, fun tool => by cases tool <;> decide⟩, rfl⟩
    intro u hu other
    obtain rfl := List.mem_singleton.mp hu
    have hd : Wire.step (.object [("name", .object [("queryDatabase", .null)])]) =
        .ok { name := .queryDatabase, args := [] } := rfl
    exact not_namesNoTool_of_step hd other
  obtain ⟨hs, -, ho⟩ := (submit_agrees e (rehearsedSubmission "dropTables") s).2 _ rfl
  exact ⟨⟨_, rfl, (submit_agrees e (rehearsedSubmission "queryDatabase") s).1 _ rfl⟩, _, rfl, hs,
    (ho _ _).mpr hf⟩

end Toolflow
