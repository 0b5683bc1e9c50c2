import Mathlib.Data.List.TFAE
import Toolflow.Batch.Validation
import Toolflow.Proofs.Condition.Malformed
import Toolflow.Proofs.Condition.Splicing
import Toolflow.Proofs.Resolution.Evaluation
import Toolflow.Resolution.Arguments

/-!
Whether a field of an outcome is there and not null. The arguments of a step, its condition and the
rule for its outcome ask this in their own ways: a directive is resolved, the text of the value is
compared with null after it has been read again, and a rule cuts the path by itself. All of them
come down to the look-up of the path. Main statement: `presence_agrees`.
-/

namespace Toolflow

open Json Text

/-- The text for a part of the outcome at a position, behind the lead of a directive or a
reference. -/
def partText (lead : String) (i : Nat) (path : List String) : String :=
  lead ++ toString i ++ "." ++ ".".intercalate path

variable {keyPrefix lead text : String} {history : History} {last : Option Outcome} {i : Nat}
  {entry : Entry} {path : List String} {a : List Char} {v : Value}

theorem partText_eq (hn : path ≠ []) :
    partText lead i path = String.ofList (lead.toList ++ (Nat.toDigits 10 i ++ dotted path)) := by
  rw [← dot_cons_intercalate hn]
  apply String.toList_injective
  simp [partText, Nat.repr]

theorem segments_intercalate (hp : ∀ segment ∈ path, Condition.IsSegment segment) (hn : path ≠ []) :
    segments (".".intercalate path).toList = path := by
  rw [← Directive.segments_dot, dot_cons_intercalate hn, Condition.segments_path hp]

theorem read_partText (hi : i < UInt64.size) (hp : ∀ segment ∈ path, Condition.IsSegment segment)
    (hn : path ≠ []) (hlead : lead = "EXTRACT_" ∨ lead = "RESULT_") :
    Directive.read keyPrefix (partText lead i path) = .field (.index i) path := by
  have hpath := Condition.isPath_of_isSegment hp
  have hs : (Source.index i).Fits := hi
  have hc : Nat.toDigits 10 i = (Source.index i).chars := rfl
  rw [partText_eq hn]
  obtain rfl | rfl := hlead
  · rw [hc, Directive.read_extract hs hpath hn]
  · rw [Directive.read_result hi hpath, Directive.part, if_neg hn]

theorem resolve_eq_iff (hr : Directive.read keyPrefix text = .field (.index i) path)
    (hi : history[i]? = some entry) (v : Value) :
    Resolution.resolve keyPrefix history (.string text) = (v, []) ↔
      entry.outcome.lookup path = .ok v := by
  have he : (Directive.field (.index i) path).evaluate history =
      entry.outcome.lookupResolved path :=
    Directive.evaluate_field (History.entryAt_index_eq_ok.mpr ⟨rfl, hi⟩)
  rw [Resolution.resolve, Resolution.resolveText, hr]
  simp only [he, Outcome.lookupResolved]
  cases entry.outcome.lookup path <;> simp [Except.mapError]

namespace Condition

theorem isNull_part (hn : path ≠ []) (o : Outcome) :
    (part o path).isNull = false ↔ ∃ v, o.lookup path = .ok v ∧ v.isNull = false := by
  rw [part, if_neg hn]
  cases o.lookup path <;> simp [Except.toOption, Value.isNull]

theorem evaluateExpression_ne_null (v : Value) :
    evaluateExpression (v.chars ++ ' ' :: "!== null".toList) = .ok (!v.isNull) := by
  have ho : ("!==", Operator.strictNe) ∈ operators := by decide
  have hspace : ∀ c ∈ [' '], isBlank c = true := List.forall_mem_singleton.mpr rfl
  obtain ⟨w, hw, hnull⟩ := readOperand_isNull v (List.forall_mem_nil _) hspace
  have ht : v.chars ++ ' ' :: "!== null".toList = v.chars ++ ' ' :: "!==".toList ++ ' ' ::
      Value.null.chars := by
    simp [Value.chars]
  have hright : readOperand (' ' :: Value.null.chars) = .ok .null := rfl
  have hs : Payload.strictEqual w .null = w.isNull := by cases w <;> rfl
  rw [List.nil_append] at hw
  rw [ht, evaluateExpression_sides v .null ho, hw, hright, ← hnull, ← hs]
  rfl

theorem Names.evaluate_ne_null (h : Names history last a v) (hl : history.length ≤ UInt64.size) :
    evaluate history last (String.ofList (a ++ ' ' :: "!== null".toList)) = !v.isNull := by
  have hs := h.substitute hl (endsReference_space "!== null".toList) (by decide +kernel)
  have he : evaluate? history last (String.ofList (a ++ ' ' :: "!== null".toList)) =
      .ok (!v.isNull) := by
    rw [evaluate?, hs]
    exact congrArg (Except.mapError ResolutionError.condition) (evaluateExpression_ne_null v)
  rw [evaluate, he]

end Condition

theorem Rule.accepts_hasField_iff (hp : ∀ segment ∈ path, Condition.IsSegment segment)
    (hn : path ≠ []) (o : Outcome) :
    Rule.accepts { hasField := some (".".intercalate path) } o = true ↔
      ∃ v, o.lookup path = .ok v ∧ v.isNull = false := by
  have hf : Rule.fieldAt? o (".".intercalate path) = (o.lookup path).toOption := by
    rw [Rule.fieldAt?, segments_intercalate hp hn]
    cases path with
    | nil => exact absurd rfl hn
    | cons segment path => rfl
  have ha : Rule.accepts { hasField := some (".".intercalate path) } o =
      (Rule.checkField o (".".intercalate path)).isNone := by
    simp [Rule.accepts, Rule.unmet?, Rule.checkCount]
  rw [ha, Rule.checkField, hf]
  cases o.lookup path with
  | error e => simp [Except.toOption]
  | ok v => cases hv : v.isNull <;> simp [Except.toOption, hv]

/-- A field of an outcome is there and not null just if each of the four who ask finds it so, and
the two directives for it always give the same. A position has to fit a count, so the history is no
longer than counts go. -/
theorem presence_agrees (keyPrefix : String) (history : History) (last : Option Outcome) (i : Nat)
    (entry : Entry) (path : List String) (hl : history.length ≤ UInt64.size)
    (hi : history[i]? = some entry) (hn : path ≠ [])
    (hp : ∀ segment ∈ path, Condition.IsSegment segment) :
    List.TFAE [
      ∃ v, Resolution.resolve keyPrefix history (.string (partText "EXTRACT_" i path)) = (v, []) ∧
        v.isNull = false,
      ∃ v, Resolution.resolve keyPrefix history (.string (partText "RESULT_" i path)) = (v, []) ∧
        v.isNull = false,
      Condition.evaluate history last (partText "RESULT_" i path ++ " !== null") = true,
      Rule.accepts { hasField := some (".".intercalate path) } entry.outcome = true,
      ∃ v, entry.outcome.lookup path = .ok v ∧ v.isNull = false] ∧
    ∀ v, Resolution.resolve keyPrefix history (.string (partText "EXTRACT_" i path)) = (v, []) ↔
      Resolution.resolve keyPrefix history (.string (partText "RESULT_" i path)) = (v, []) := by
  have hsize : i < UInt64.size := Nat.lt_of_lt_of_le (List.getElem?_eq_some_iff.mp hi).1 hl
  have hextract (v : Value) :
      Resolution.resolve keyPrefix history (.string (partText "EXTRACT_" i path)) = (v, []) ↔
        entry.outcome.lookup path = .ok v :=
    resolve_eq_iff (read_partText hsize hp hn (.inl rfl)) hi v
  have hresult (v : Value) :
      Resolution.resolve keyPrefix history (.string (partText "RESULT_" i path)) = (v, []) ↔
        entry.outcome.lookup path = .ok v :=
    resolve_eq_iff (read_partText hsize hp hn (.inr rfl)) hi v
  have hcondition :
      Condition.evaluate history last (partText "RESULT_" i path ++ " !== null") = true ↔
        ∃ v, entry.outcome.lookup path = .ok v ∧ v.isNull = false := by
    have ht : partText "RESULT_" i path ++ " !== null" =
        String.ofList ("RESULT_".toList ++ Nat.toDigits 10 i ++ dotted path ++ ' ' ::
          "!== null".toList) := by
      rw [partText_eq hn]
      apply String.toList_injective
      simp
    have hname : Condition.Names history last _ _ := .entry hi hp
    rw [ht, hname.evaluate_ne_null hl, Bool.not_eq_true', Condition.isNull_part hn]
  constructor
  · apply List.tfae_of_forall (∃ v, entry.outcome.lookup path = .ok v ∧ v.isNull = false)
    simp only [List.forall_mem_cons, hextract, hresult, hcondition, Rule.accepts_hasField_iff hp hn]
    simp
  · intro v
    rw [hextract, hresult]

theorem presence_agrees_rehearsed :
    Resolution.resolve "cache:" Condition.trickyHistory (.string "RESULT_0.note") =
      (Condition.trickyNote, []) ∧
      Condition.evaluate Condition.trickyHistory none "RESULT_0.note !== null" = true ∧
      Rule.accepts { hasField := some "note" } Condition.trickyOutcome = true ∧
      Condition.evaluate Condition.trickyHistory none "RESULT_0.list.1 !== null" = false ∧
      Rule.accepts { hasField := some "list.1" } Condition.trickyOutcome = false := by
  obtain ⟨hthere, hsame⟩ := presence_agrees "cache:" Condition.trickyHistory none 0
    (.executed .queryDatabase [] Condition.trickyOutcome) ["note"]
      (by decide) rfl (by decide) (by decide)
  obtain ⟨hmissing, -⟩ := presence_agrees "cache:" Condition.trickyHistory none 0
    (.executed .queryDatabase [] Condition.trickyOutcome) ["list", "1"]
      (by decide) rfl (by decide) (by decide)
  have hnot : ¬ ∃ v, Condition.trickyOutcome.lookup ["list", "1"] = .ok v ∧ v.isNull = false := by
    rintro ⟨v, hv, -⟩
    cases hv
  have hfound : ∃ v, Condition.trickyOutcome.lookup ["note"] = .ok v ∧ v.isNull = false :=
    ⟨Condition.trickyNote, rfl, rfl⟩
  refine ⟨(hsame _).mp rfl, (hthere.out 2 4).mpr hfound, (hthere.out 3 4).mpr hfound, ?_, ?_⟩
  · exact Bool.eq_false_iff.mpr fun h => hnot ((hmissing.out 2 4).mp h)
  · exact Bool.eq_false_iff.mpr fun h => hnot ((hmissing.out 3 4).mp h)

end Toolflow
