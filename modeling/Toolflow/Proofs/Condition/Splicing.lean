import Mathlib.Logic.Function.Iterate
import Toolflow.Proofs.Condition.References
import Toolflow.Proofs.Condition.Scan
import Toolflow.Proofs.Payload.Heredity

/-!
Data put into a condition does not change how the condition is read. Substitution is done once, from
the left, and the text of a value is passed over by the scan and read back as the value, so
comparing two references compares their values and exclamation marks in front of a reference negate
its truth. Main statement: `spliced_faithfully`.
-/

namespace Toolflow.Condition

open Json Text

variable {history : History} {last : Option Outcome} {a b : List Char} {v w : Value}
  {symbol : String} {operator : Operator}

theorem ordered_part {o : Outcome} (h : o.Ordered) (path : List String) :
    (part o path).Ordered := by
  unfold part
  split
  · exact Outcome.ordered_envelope h
  · cases hl : o.lookup path with
    | ok v => exact Outcome.ordered_lookup h hl
    | error e => trivial

theorem Names.ordered (h : Names history last a v) (hd : ∀ entry ∈ history, entry.outcome.Ordered)
    (hl : ∀ o, last = some o → o.Ordered) : v.Ordered := by
  cases h with
  | entry found valid => exact ordered_part (hd _ (List.mem_of_getElem? found)) _
  | last found valid => exact ordered_part (hl _ found) _

theorem isGap_symbol : ∀ o ∈ operators, (o.1.toList ++ [' ']).all isGap = true := by
  decide +kernel

theorem substitute_comparison (hl : history.length ≤ UInt64.size) (ha : Names history last a v)
    (hb : Names history last b w) (ho : (symbol, operator) ∈ operators) :
    substitute history last (String.ofList (a ++ ' ' :: symbol.toList ++ ' ' :: b)) =
      .ok (v.chars ++ ' ' :: symbol.toList ++ ' ' :: w.chars) := by
  have hs : a ++ ' ' :: symbol.toList ++ ' ' :: b = a ++
      (' ' :: (symbol.toList ++ [' '] ++ (b ++ []))) := by simp
  have he : substitute history last (String.ofList (a ++ ' ' :: symbol.toList ++ ' ' :: b)) =
      expand history last false (a ++ (' ' :: (symbol.toList ++ [' '] ++ (b ++ [])))) := by
    rw [← hs, expand, substitute, String.toList_ofList]
  have hspace : isGap ' ' = true := by decide +kernel
  rw [he, ha.expand hl (endsReference_space _), expand_gap hspace,
    expand_append (isGap_symbol _ ho), hb.expand hl endsReference_nil, expand_nil]
  simp [Functor.map, Except.map]

theorem substitute_negations (hl : history.length ≤ UInt64.size)
    (ha : Names history last a v) (n : Nat) :
    substitute history last (String.ofList (List.replicate n '!' ++ a)) =
      .ok (List.replicate n '!' ++ v.chars) := by
  have hgap : (List.replicate n '!').all isGap = true := by
    rw [List.all_eq_true]
    intro c hc
    obtain rfl := List.eq_of_mem_replicate hc
    decide +kernel
  have he : substitute history last (String.ofList (List.replicate n '!' ++ a)) =
      expand history last false (List.replicate n '!' ++ (a ++ [])) := by
    rw [List.append_nil, expand, substitute, String.toList_ofList]
  rw [he, expand_append hgap, ha.expand hl endsReference_nil, expand_nil]
  simp [Functor.map, Except.map]

/-- A text that is neither a blank nor begins an expression that is more than an operand. -/
structure Bare (cs : List Char) : Prop where
  trimmed : Trimmed cs
  head : ∀ c, cs.head? = some c → c ≠ '!' ∧ c ≠ '='

theorem bare_chars (v : Value) : Bare v.chars := by
  refine ⟨trimmed_chars v, ?_⟩
  intro c hc
  obtain ⟨d, cs, hd, ho⟩ := v.opens_chars
  rw [hd] at hc
  cases hc
  exact (not_blank_of_opens ho).2

theorem stripNegations_replicate {cs : List Char} (h : Bare cs) (rest : List Char) (n : Nat)
    (negated : Bool) :
    stripNegations negated (List.replicate n '!' ++ (cs ++ rest)) =
      (not^[n] negated, cs ++ rest) := by
  obtain ⟨c, tail, rfl, hb⟩ := h.trimmed.head
  obtain ⟨hc, he⟩ := h.head c rfl
  induction n generalizing negated with
  | zero => exact stripNegations_of_head hb hc (List.forall_mem_nil _) (tail ++ rest) negated
  | succ n ih =>
    have hne : (List.replicate n '!' ++ (c :: tail ++ rest)).head? ≠ some '=' := by
      cases n with
      | zero => simpa using he
      | succ n => simp [List.replicate_succ]
    rw [List.replicate_succ, List.cons_append, stripNegations]
    have hblank : isBlank '!' = false := by decide
    rw [hblank, if_neg Bool.false_ne_true, if_pos ⟨rfl, hne⟩, ih, Function.iterate_succ_apply]

theorem iterate_not_bne (n : Nat) (b : Bool) : ((not^[n] false) != b) = not^[n] b := by
  induction n with
  | zero => simp
  | succ n ih =>
    rw [Function.iterate_succ_apply', Function.iterate_succ_apply', ← ih]
    cases not^[n] false <;> cases b <;> rfl

theorem readOperator?_symbol (ho : (symbol, operator) ∈ operators) (rest : List Char) :
    ∃ c cs, symbol.toList = c :: cs ∧ readOperator? (c :: cs ++ ' ' :: rest) =
      some (operator, ' ' :: rest) := by
  simp only [operators, List.mem_cons, Prod.mk.injEq, List.not_mem_nil, or_false] at ho
  rcases ho with ⟨rfl, rfl⟩ | ⟨rfl, rfl⟩ | ⟨rfl, rfl⟩ | ⟨rfl, rfl⟩ | ⟨rfl, rfl⟩ | ⟨rfl, rfl⟩ | ⟨rfl,
    rfl⟩ | ⟨rfl, rfl⟩
  all_goals exact ⟨_, _, rfl, rfl⟩

/-- The operator between two values is the one that the scan finds, and what stands on its sides is
read apart. -/
theorem evaluateExpression_sides (v w : Value) (ho : (symbol, operator) ∈ operators) :
    evaluateExpression (v.chars ++ ' ' :: symbol.toList ++ ' ' :: w.chars) =
      (do operator.apply (← readOperand (v.chars ++ [' '])) (← readOperand (' ' :: w.chars))) := by
  have htrim : trimEnd (v.chars ++ ' ' :: symbol.toList ++ ' ' :: w.chars) =
      v.chars ++ ' ' :: symbol.toList ++ ' ' :: w.chars := by
    have h := trimEnd_append (trimmed_chars w) (v.chars ++ ' ' :: symbol.toList ++ [' '])
      (List.forall_mem_nil _)
    simpa using h
  have hstrip : stripNegations false (v.chars ++ ' ' :: symbol.toList ++ ' ' :: w.chars) =
      (false, v.chars ++ ' ' :: symbol.toList ++ ' ' :: w.chars) := by
    have h := stripNegations_replicate (bare_chars v)
      (' ' :: symbol.toList ++ ' ' :: w.chars) 0 false
    simpa using h
  have hsplit : splitOperator? .outside (v.chars ++ ' ' :: symbol.toList ++ ' ' :: w.chars) =
      some (v.chars ++ [' '], operator, ' ' :: w.chars) := by
    obtain ⟨c, cs, hc, hr⟩ := readOperator?_symbol ho w.chars
    have hp : Passes .outside (v.chars ++ [' ']) .outside :=
      (passes_chars v).append (passes_plain rfl)
    have hs := hp (symbol.toList ++ ' ' :: w.chars)
    rw [hc, List.cons_append, splitOperator?, if_pos rfl, ← List.cons_append, hr] at hs
    rw [hc]
    simpa using hs
  have hne : v.chars ++ ' ' :: symbol.toList ++ ' ' :: w.chars ≠ [] := by simp
  rw [evaluateExpression, htrim, hstrip]
  simp only [evaluateComparison, hsplit, if_neg hne, map_false_bne]

theorem evaluateExpression_comparison (hv : Value.Readable maxDepth v)
    (hw : Value.Readable maxDepth w) (ho : (symbol, operator) ∈ operators) :
    evaluateExpression (v.chars ++ ' ' :: symbol.toList ++ ' ' :: w.chars) =
      operator.apply v w := by
  -- The spaces around the operator fall to its sides and are trimmed off.
  have hspace : ∀ c ∈ [' '], isBlank c = true := List.forall_mem_singleton.mpr rfl
  have hleft : readOperand ([] ++ v.chars ++ [' ']) = .ok v :=
    readOperand_chars hv (List.forall_mem_nil _) hspace
  have hright : readOperand ([' '] ++ w.chars ++ []) = .ok w :=
    readOperand_chars hw hspace (List.forall_mem_nil _)
  rw [List.nil_append] at hleft
  rw [List.append_nil, List.singleton_append] at hright
  rw [evaluateExpression_sides v w ho, hleft, hright]
  rfl

theorem evaluateExpression_negations (hv : Value.Readable maxDepth v) (n : Nat) :
    evaluateExpression (List.replicate n '!' ++ v.chars) = .ok (not^[n] (Payload.isTruthy v)) := by
  have hbare := bare_chars v
  have htrim : trimEnd (List.replicate n '!' ++ v.chars) = List.replicate n '!' ++ v.chars := by
    have h := trimEnd_append hbare.trimmed (List.replicate n '!') (List.forall_mem_nil _)
    rwa [List.append_nil] at h
  have hstrip : stripNegations false (List.replicate n '!' ++ v.chars) =
      (not^[n] false, v.chars) := by
    have h := stripNegations_replicate hbare [] n false
    rwa [List.append_nil] at h
  have hsplit : splitOperator? .outside v.chars = none := by
    have h := passes_chars v []
    rwa [List.append_nil, splitOperator?, Option.map_none] at h
  have hread : readOperand ([] ++ v.chars ++ []) = .ok v := readOperand_chars hv (by simp) (by simp)
  rw [List.append_nil, List.nil_append] at hread
  rw [evaluateExpression, htrim, hstrip]
  simp only [evaluateComparison, hsplit, hread, if_neg hbare.trimmed.ne_nil]
  exact congrArg Except.ok (iterate_not_bne n (Payload.isTruthy v))

/-- Comparing two references compares the values they name, errors included, and `n` exclamation
marks in front of one negate its truth `n` times. A position has to fit a count, so the history is
no longer than counts go. -/
theorem spliced_faithfully (history : History) (last : Option Outcome) (a b : List Char)
    (v w : Value) (symbol : String) (operator : Operator) (hl : history.length ≤ UInt64.size)
    (hh : ∀ entry ∈ history, entry.outcome.Ordered) (ho : ∀ o, last = some o → o.Ordered)
    (ha : Names history last a v) (hb : Names history last b w) (hv : v.depth ≤ 127)
    (hw : w.depth ≤ 127) (hn : ∀ n ∈ v.numbers ++ w.numbers, n.ReadsBack)
    (hs : (symbol, operator) ∈ operators) :
    evaluate? history last (String.ofList (a ++ ' ' :: symbol.toList ++ ' ' :: b)) =
      (operator.apply v w).mapError .condition ∧
    ∀ n, evaluate? history last (String.ofList (List.replicate n '!' ++ a)) =
      .ok (not^[n] (Payload.isTruthy v)) := by
  have hrv : Value.Readable maxDepth v :=
    ⟨hv, fun n hm => hn n (List.mem_append_left _ hm), ha.ordered hh ho⟩
  have hrw : Value.Readable maxDepth w :=
    ⟨hw, fun n hm => hn n (List.mem_append_right _ hm), hb.ordered hh ho⟩
  constructor
  · rw [evaluate?, substitute_comparison hl ha hb hs]
    exact congrArg (Except.mapError ResolutionError.condition)
      (evaluateExpression_comparison hrv hrw hs)
  · intro n
    rw [evaluate?, substitute_negations hl ha]
    exact congrArg (Except.mapError ResolutionError.condition) (evaluateExpression_negations hrv n)

/-- A string that would be an expression of its own if it were not in quotes. -/
def trickyNote : Value :=
  .string "!x' == \"RESULT_0.note\" \\ >="

def trickyOutcome : Outcome :=
  .ok (.object [("list", .array [.object [("k<'", .number (.int (-2) (by decide)))]]),
    ("note", trickyNote)])

def trickyHistory : History :=
  [.executed .queryDatabase [] trickyOutcome]

theorem spliced_faithfully_rehearsed :
    let a := "RESULT_0.note".toList
    let b := "LAST_RESULT".toList
    Names trickyHistory trickyOutcome a trickyNote ∧
      Names trickyHistory trickyOutcome b trickyOutcome.envelope ∧
      trickyNote.depth ≤ 127 ∧ trickyOutcome.envelope.depth ≤ 127 ∧
      (∀ n ∈ trickyNote.numbers ++ trickyOutcome.envelope.numbers, n.ReadsBack) ∧
      evaluate? trickyHistory trickyOutcome "RESULT_0.note >= LAST_RESULT" =
        .error (.condition (.unordered trickyNote trickyOutcome.envelope)) ∧
      evaluate? trickyHistory trickyOutcome "!!!RESULT_0.note" = .ok false := by
  intro a b
  have hs : ∀ segment ∈ ["note"], IsSegment segment := by
    intro segment h
    obtain rfl := List.mem_singleton.mp h
    exact ⟨by decide, List.all_eq_true.mp (by decide)⟩
  have ha : Names trickyHistory trickyOutcome a trickyNote :=
    @Names.entry trickyHistory trickyOutcome 0 _ ["note"] rfl hs
  have hb : Names trickyHistory trickyOutcome b trickyOutcome.envelope :=
    @Names.last trickyHistory trickyOutcome _ [] rfl (List.forall_mem_nil _)
  have ho : trickyOutcome.Ordered := by
    rintro v ⟨⟩
    refine Value.ordered_object_iff.mpr ⟨by decide +kernel, ?_⟩
    simp [Value.Ordered, Value.ItemsOrdered, Value.MembersOrdered, Members.Ascending,
      Members.keys, trickyNote]
  have hh : ∀ entry ∈ trickyHistory, entry.outcome.Ordered := by
    intro entry he
    obtain rfl := List.mem_singleton.mp he
    exact ho
  have hl : ∀ o, some trickyOutcome = some o → o.Ordered := by
    rintro o ⟨⟩
    exact ho
  have hv : trickyNote.depth ≤ 127 := by decide
  have hw : trickyOutcome.envelope.depth ≤ 127 := by decide +kernel
  have hn : ∀ n ∈ trickyNote.numbers ++ trickyOutcome.envelope.numbers, n.ReadsBack := by
    intro n h
    obtain rfl : n = .int (-2) (by decide) := List.mem_singleton.mp h
    decide +kernel
  obtain ⟨hc, hneg⟩ := spliced_faithfully trickyHistory trickyOutcome a b trickyNote
    trickyOutcome.envelope ">=" .ge
    (by decide) hh hl ha hb hv hw hn (by decide)
  exact ⟨ha, hb, hv, hw, hn, hc, hneg 3⟩

end Toolflow.Condition
