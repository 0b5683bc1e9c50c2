import Mathlib.Data.List.Induction
import Toolflow.Proofs.Condition.References
import Toolflow.Proofs.Engine.Steps
import Toolflow.Proofs.Resolution.Evaluation

/-!
The last outcome. A run keeps it beside the history, where conditions find it, and directives search
the history for it from the end. Both are the same in every state of a run (`Visits.last_eq`), so a
reference to a part of the last outcome and the directives for that part agree. Main statement:
`last_agrees_everywhere`.
-/

namespace Toolflow

open Json Text

namespace History

theorem lastExecuted?_append (history : History) (entry : Entry) :
    lastExecuted? (history ++ [entry]) =
      if entry.skipped then lastExecuted? history else some (history.length, entry) := by
  cases h : entry.skipped <;> simp [lastExecuted?, List.zipIdx_append, h]

/-- The search from the end finds what is left last when the entries passed over are left out. -/
theorem lastOutcome?_eq (history : History) :
    history.lastOutcome? = history.lastExecuted?.map fun e => e.2.outcome := by
  induction history using List.reverseRecOn with
  | nil => rfl
  | append_singleton before entry ih =>
    rw [lastExecuted?_append]
    cases h : entry.skipped with
    | true => simpa [lastOutcome?, h] using ih
    | false => simp [lastOutcome?, h]

end History

/-- What a condition reads in place of a part of an outcome: null where the path leads nowhere. -/
def Resolved.orNull : Resolved Value → Resolved Value
  | .error (.path _) => .ok .null
  | r => r

theorem Resolved.orNull_eq_null_iff (r : Resolved Value) :
    r.orNull = .ok .null ↔ r = .ok .null ∨ ∃ error, r = .error (.path error) := by
  cases r with
  | ok v => simp [Resolved.orNull]
  | error e => cases e <;> simp [Resolved.orNull]

/-- The texts of the directives for a part of the last outcome. -/
def lastPartTexts (path : List String) : List String :=
  [String.ofList ("EXTRACT_LAST".toList ++ dotted path),
    String.ofList ("LAST_RESULT".toList ++ dotted path)]

/-- The reference to a part of the last outcome. -/
def Condition.lastPart (path : List String) : Reference :=
  ⟨none, dotted path⟩

/-- A part of the last outcome is the same in the condition of a step and in its arguments. -/
structure AgreesOnLast (keyPrefix : String) (history : History) (last : Option Outcome)
    (path : List String) : Prop where
  directives : ∀ text ∈ lastPartTexts path, Directive.read keyPrefix text = .field .last path
  arguments : ∀ text ∈ lastPartTexts path, Resolution.resolveText keyPrefix history text =
    match (Directive.field .last path).evaluate history with
    | .ok v => (v, [])
    | .error error => (.array [], [text ++ ": " ++ error.message])
  reference : ∀ rest, Condition.EndsReference rest →
    Condition.readReference? ("LAST_RESULT".toList ++ dotted path ++ rest) =
      some (Condition.lastPart path, rest)
  value_eq : (Condition.lastPart path).value history last =
    ((Directive.field .last path).evaluate history).orNull
  null_iff : (Condition.lastPart path).value history last = .ok .null ↔
    (Directive.field .last path).evaluate history = .ok .null ∨
      ∃ error, (Directive.field .last path).evaluate history = .error (.path error)

namespace Condition

variable {keyPrefix : String} {history : History} {last : Option Outcome} {path : List String}

theorem read_lastPartTexts (hp : ∀ segment ∈ path, IsSegment segment) (hn : path ≠ []) :
    ∀ text ∈ lastPartTexts path, Directive.read keyPrefix text = .field .last path := by
  have hpath := isPath_of_isSegment hp
  intro text ht
  simp only [lastPartTexts, List.mem_cons, List.not_mem_nil, or_false] at ht
  obtain rfl | rfl := ht
  · have ht : "EXTRACT_LAST".toList ++ dotted path =
        "EXTRACT_".toList ++ (Source.last.chars ++ dotted path) := rfl
    have hs : Source.last.Fits := trivial
    rw [ht, Directive.read_extract hs hpath hn]
  · rw [Directive.read_lastResult hpath, Directive.part, if_neg hn]

theorem readReference?_lastPart (hp : ∀ segment ∈ path, IsSegment segment) {rest : List Char}
    (hr : EndsReference rest) :
    readReference? ("LAST_RESULT".toList ++ dotted path ++ rest) = some (lastPart path, rest) := by
  rw [List.append_assoc]
  exact readReference?_of_readTarget? (readTarget?_last _) hp hr

theorem value_lastPart (hl : last = history.lastOutcome?) (hp : ∀ segment ∈ path, IsSegment segment)
    (hn : path ≠ []) :
    (lastPart path).value history last =
      ((Directive.field .last path).evaluate history).orNull := by
  rw [History.lastOutcome?_eq] at hl
  cases hf : history.lastExecuted? with
  | none =>
    rw [hf] at hl
    subst hl
    simp only [Reference.value, Reference.outcome, lastPart, Directive.evaluate,
      History.entryAt, hf]
    rfl
  | some found =>
    obtain ⟨i, entry⟩ := found
    rw [hf] at hl
    have ho : (lastPart path).outcome history last = .ok entry.outcome := by rw [hl]; rfl
    have he : (Directive.field .last path).evaluate history = entry.outcome.lookupResolved path :=
      Directive.evaluate_field (History.entryAt_last_eq_ok.mpr hf)
    rw [value_of_outcome ho rfl hp, he, part, if_neg hn, Outcome.lookupResolved]
    cases entry.outcome.lookup path <;> rfl

theorem agreesOnLast (keyPrefix : String) (hl : last = history.lastOutcome?)
    (hp : ∀ segment ∈ path, IsSegment segment) (hn : path ≠ []) :
    AgreesOnLast keyPrefix history last path where
  directives := read_lastPartTexts hp hn
  arguments := by
    intro text ht
    have hr : Directive.read keyPrefix text = .field .last path := read_lastPartTexts hp hn text ht
    cases he : (Directive.field .last path).evaluate history with
    | ok v => simp only [Resolution.resolveText, hr, he]
    | error error => simp only [Resolution.resolveText, hr, he]
  reference rest hr := readReference?_lastPart hp hr
  value_eq := value_lastPart hl hp hn
  null_iff := by
    rw [value_lastPart hl hp hn]
    exact Resolved.orNull_eq_null_iff _

end Condition

namespace Engine

/-- A run of the steps comes through this state, after some of them or at the one where it stops. -/
inductive Visits (e : Engine) (steps : List Step) (s₀ : Session) : Progress → Session → Prop where
  | taken {n : Nat} {p : Progress} {s : Session} (hr : e.Reaches steps s₀ n p s) :
    Visits e steps s₀ p s
  | stopped {n : Nat} {step : Step} {q p : Progress} {t s : Session} {failure : StepFailure}
      (hr : e.Reaches steps s₀ n q t) (hs : steps[n]? = some step)
      (ht : e.takeStep (n + 1 < steps.length) step q t = (some failure, p, s)) :
        Visits e steps s₀ p s

variable {e : Engine} {steps : List Step} {s₀ s : Session} {n : Nat} {p : Progress}

theorem Reaches.success (h : e.Reaches steps s₀ n p s) :
    ∀ entry ∈ p.history, entry.outcome.success = true := by
  induction h with
  | start => simp
  | next _ _ ht ih =>
    cases e.takeStep_taken ht with
    | passedOver =>
      simp only [List.forall_mem_append, List.forall_mem_singleton]
      exact ⟨ih, rfl⟩
    | executed _ _ ho =>
      simp only [List.forall_mem_append, List.forall_mem_singleton]
      exact ⟨ih, ((StepFailure.of?_eq_none_iff _ _).mp ho).1⟩

/-- A step that fails leaves no entry, and the last outcome is that of the step before it. -/
theorem Visits.reaches (h : e.Visits steps s₀ p s) :
    ∃ n q t, e.Reaches steps s₀ n q t ∧ p.history = q.history ∧ p.last = q.last := by
  cases h with
  | taken hr => exact ⟨_, p, s, hr, rfl, rfl⟩
  | stopped hr hs ht =>
    cases e.takeStep_taken ht with
    | failed => exact ⟨_, _, _, hr, rfl, rfl⟩

theorem Visits.last_eq (h : e.Visits steps s₀ p s) : p.last = p.history.lastOutcome? := by
  obtain ⟨n, q, t, hr, hh, hl⟩ := h.reaches
  rw [hl, hh, hr.last_eq]

/-- In every state of a run the last outcome is that of the entry that directives find last, and all
outcomes of calls are successes. So a reference to a part of the last outcome, in the condition of
the next step, means what the directives for that part give in its arguments, and it is null exactly
where they give null or lead nowhere. -/
theorem last_agrees_everywhere (e : Engine) (batch : Batch) (s₀ s : Session) (p : Progress)
    (h : e.Visits batch.steps s₀ p s) :
    (∀ o, p.last = some o ↔ ∃ i entry, p.history.entryAt .last = .ok (i, entry) ∧
      entry.outcome = o) ∧
    (p.last = none ↔ p.history.entryAt .last = .error .noLastResult) ∧
    (∀ entry ∈ p.history, entry.skipped = false → entry.outcome.success = true) ∧
    ∀ path, path ≠ [] → (∀ segment ∈ path, Condition.IsSegment segment) →
      AgreesOnLast e.config.keyPrefix p.history p.last path := by
  have hl := h.last_eq
  refine ⟨?_, ?_, ?_, ?_⟩
  · intro o
    rw [hl, History.lastOutcome?_eq, History.entryAt]
    cases p.history.lastExecuted? with
    | none => simp
    | some found => simp [Prod.ext_iff]
  · rw [hl, History.lastOutcome?_eq, History.entryAt]
    cases p.history.lastExecuted? <;> simp
  · obtain ⟨n, q, t, hr, hh, -⟩ := h.reaches
    intro entry he _
    exact hr.success entry (hh ▸ he)
  · intro path hn hp
    exact Condition.agreesOnLast e.config.keyPrefix hl hp hn

/-- A search, and a step that is passed over. -/
def rehearsedLast : Batch where
  steps := [{ name := .searchTrades, args := [] },
    { name := .queryDatabase, args := [], condition := some "0" }]

theorem last_agrees_everywhere_rehearsed :
    let e := rehearsal {}
      [{ name := .searchTrades, replies := [.give (.ok (.object [("count", .ofCount 2)]))] },
       { name := .queryDatabase }]
    ∃ p s, e.Visits rehearsedLast.steps (.start {}) p s ∧
      p.history.map Entry.skipped = [false, true] ∧
      p.last.isSome = true ∧ AgreesOnLast e.config.keyPrefix p.history p.last ["count"] := by
  intro e
  have hk : (e.takeSteps 1 rehearsedLast.steps {} (.start {})).1.isNone = true ∧
      (e.takeSteps 1 rehearsedLast.steps {} (.start {})).2.1.history.map Entry.skipped =
        [false, true] ∧
      (e.takeSteps 1 rehearsedLast.steps {} (.start {})).2.1.last.isSome = true := by decide +kernel
  obtain ⟨p, s, ht, hr⟩ | ⟨_, _, _, _, _, _, _, -, -, -, ht⟩ :=
    takeSteps_cases (.start : e.Reaches rehearsedLast.steps (.start {}) 0 {} (.start {}))
      rehearsedLast.steps rfl
  · rw [Nat.zero_add] at ht
    rw [ht] at hk
    have hs : ∀ segment ∈ ["count"], Condition.IsSegment segment := by
      intro segment h
      obtain rfl := List.mem_singleton.mp h
      exact ⟨by decide, List.all_eq_true.mp (by decide)⟩
    have hv : e.Visits rehearsedLast.steps (.start {}) p s := .taken hr
    obtain ⟨-, -, -, ha⟩ := last_agrees_everywhere e rehearsedLast (.start {}) s p hv
    exact ⟨p, s, hv, hk.2.1, hk.2.2, ha ["count"] (by simp) hs⟩
  · rw [Nat.zero_add] at ht
    rw [ht] at hk
    cases hk.1

end Engine

end Toolflow
