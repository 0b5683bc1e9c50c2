import Toolflow.Condition.Evaluate
import Toolflow.Proofs.Condition.References
import Toolflow.Proofs.Condition.Scan

/-!
Conditions that are no expressions. An operand is a JSON text, a string in single quotes or a bare
word, but a text that is none of these still reads as a string, which is not empty and spells no
number. So a condition without an operator that is no expression is true, and one with an operator
compares texts. Main statements: `malformed_false_iff`, `false_and_true_holds`.
-/

namespace Toolflow.Condition

open Json Text

/-- A JSON text, a string in single quotes without such a quote inside, or a word without white
space. -/
def isOperand (cs : List Char) : Bool :=
  (read? (trim cs)).isSome || (singleQuoted? (trim cs)).any (!·.contains '\'') ||
    (!(trim cs).isEmpty && (trim cs).all (!isBlank ·))

/-- One operand, or two around the first operator outside quotes. -/
def isExpression (cs : List Char) : Bool :=
  isOperand cs || (splitOperator? .outside (trim cs)).any fun (left, _, right) =>
    isOperand left && isOperand right

/-- How two values stand to each other as texts. Only strings are ordered. -/
def Operator.Relates (operator : Operator) (left right : Value) : Prop :=
  match operator with
  | .strictEq => left = right
  | .strictNe => left ≠ right
  | .looseEq => Payload.coerced left = Payload.coerced right
  | .looseNe => Payload.coerced left ≠ Payload.coerced right
  | .gt => ∃ s t, left = .string s ∧ right = .string t ∧ compare s t = .gt
  | .lt => ∃ s t, left = .string s ∧ right = .string t ∧ compare s t = .lt
  | .ge => ∃ s t, left = .string s ∧ right = .string t ∧ compare s t ≠ .lt
  | .le => ∃ s t, left = .string s ∧ right = .string t ∧ compare s t ≠ .gt

section Numbers

variable {cs : List Char} {c : Char}

theorem isNumeralChar_of_readExponent? {e : Int} (h : Binary64.readExponent? cs = some e) :
    ∀ c ∈ cs, isNumeralChar c = true := by
  cases cs with
  | nil => exact List.forall_mem_nil _
  | cons c cs =>
    rw [Binary64.readExponent?] at h
    split at h
    · next hc =>
      obtain ⟨n, hn, -⟩ := Option.map_eq_some_iff.mp h
      have hd : ∀ c ∈ (Binary64.readSign cs).2, c.isDigit = true := by
        unfold Binary64.readDigits? at hn
        split at hn
        · next hall => exact List.all_eq_true.mp hall.2
        · cases hn
      obtain ⟨sign, hs, hsign⟩ := readSign_used cs
      have hc : isNumeralChar c = true := by rcases hc with rfl | rfl <;> rfl
      refine List.forall_mem_cons.mpr ⟨hc, ?_⟩
      rw [hs]
      intro d hd'
      rcases List.mem_append.mp hd' with hd' | hd'
      · exact hsign d hd'
      · exact isNumeralChar_of_isDigit (hd d hd')
    · cases h

theorem isNumeralChar_of_digits {rest : List Char} (hcs : cs.dropWhile Char.isDigit = rest)
    (hr : ∀ c ∈ rest, isNumeralChar c = true) : ∀ c ∈ cs, isNumeralChar c = true := by
  intro c hc
  rw [← List.takeWhile_append_dropWhile (p := Char.isDigit) (l := cs), hcs] at hc
  rcases List.mem_append.mp hc with hc | hc
  · exact isNumeralChar_of_isDigit (List.mem_takeWhile_imp hc)
  · exact hr c hc

theorem isNumeralChar_of_readDecimal? {negative : Bool} {x : Binary64}
    (h : Binary64.readDecimal? negative cs = some x) :
    ∀ c ∈ cs, isNumeralChar c = true := by
  unfold Binary64.readDecimal? at h
  simp only [List.span_eq_takeWhile_dropWhile] at h
  apply isNumeralChar_of_digits rfl
  split at h
  · next rest hrest =>
    split at h
    · cases h
    · obtain ⟨e, he, -⟩ := Option.map_eq_some_iff.mp h
      rw [hrest]
      exact List.forall_mem_cons.mpr
        ⟨rfl, isNumeralChar_of_digits rfl (isNumeralChar_of_readExponent? he)⟩
  · split at h
    · cases h
    · obtain ⟨e, he, -⟩ := Option.map_eq_some_iff.mp h
      exact isNumeralChar_of_readExponent? he

theorem isPlain_of_toLower (h : c.toLower ∈ ['i', 'n', 'f', 't', 'y', 'a']) :
    isPlain c = true ∧ isBlank c = false := by
  unfold Char.toLower at h
  split at h
  · next hu =>
    have hl : 65 ≤ c.toNat := hu.1
    have hr : c.toNat ≤ 90 := hu.2
    refine ⟨?_, isBlank_of_visible (by omega)⟩
    simp only [isPlain, isQuote, List.contains_cons, List.contains_nil, Bool.or_false,
      Bool.and_eq_true, Bool.not_eq_true', Bool.or_eq_false_iff, beq_eq_false_iff_ne]
    refine ⟨⟨?_, ?_⟩, ?_, ?_, ?_, ?_⟩ <;> rintro rfl <;> revert hl hr <;> decide
  · simp only [List.mem_cons, List.not_mem_nil, or_false] at h
    rcases h with rfl | rfl | rfl | rfl | rfl | rfl <;> decide

theorem isPlain_of_readWord? {negative : Bool} {x : Binary64}
    (h : Binary64.readWord? negative cs = some x) :
    ∀ c ∈ cs, isPlain c = true ∧ isBlank c = false := by
  have hletters : ∀ word ∈ ["inf", "infinity", "nan"],
      word.toList.all ['i', 'n', 'f', 't', 'y', 'a'].contains = true := by
    decide
  have hword : String.ofList (cs.map Char.toLower) ∈ ["inf", "infinity", "nan"] := by
    unfold Binary64.readWord? at h
    grind
  intro c hc
  have hmem : c.toLower ∈ (String.ofList (cs.map Char.toLower)).toList := by
    rw [String.toList_ofList]
    exact List.mem_map_of_mem hc
  apply isPlain_of_toLower
  exact List.contains_iff_mem.mp (List.all_eq_true.mp (hletters _ hword) _ hmem)

/-- A text that spells a number has neither quotes nor blanks in it. -/
theorem isPlain_of_read? {x : Binary64} (h : Binary64.read? cs = some x) :
    ∀ c ∈ cs, isPlain c = true ∧ isBlank c = false := by
  obtain ⟨sign, hs, hsign⟩ := readSign_used cs
  have hrest : ∀ c ∈ (Binary64.readSign cs).2, isPlain c = true ∧ isBlank c = false := by
    rcases Option.or_eq_some_iff.mp h with h | ⟨-, h⟩
    · exact isPlain_of_readWord? h
    · exact fun c hc => isPlain_of_isNumeralChar (isNumeralChar_of_readDecimal? h c hc)
  rw [hs]
  intro c hc
  rcases List.mem_append.mp hc with hc | hc
  · exact isPlain_of_isNumeralChar (hsign c hc)
  · exact hrest c hc

end Numbers

variable {cs : List Char} {v w : Value}

/-- A string with a blank in it that spells no number. -/
def Stray (v : Value) : Prop :=
  ∃ s, v = .string s ∧ (∃ c ∈ s.toList, isBlank c = true) ∧ Payload.number? v = none

theorem singleQuoted?_eq_some {inner : List Char} (h : singleQuoted? cs = some inner) :
    cs = '\'' :: inner ++ ['\''] := by
  unfold singleQuoted? at h
  split at h
  · next tail =>
    split at h
    · next hl =>
      cases h
      obtain ⟨inner, rfl⟩ := List.getLast?_eq_some_iff.mp hl
      rw [List.dropLast_concat, List.cons_append]
    · cases h
  · cases h

theorem stray_ofList {text : List Char} (hb : ∃ c ∈ text, isBlank c = true)
    (hn : ∃ c ∈ trim text, ¬ (isPlain c = true ∧ isBlank c = false)) :
    Stray (.string (String.ofList text)) := by
  refine ⟨_, rfl, by rwa [String.toList_ofList], ?_⟩
  rw [Payload.number?, String.toList_ofList, Option.eq_none_iff_forall_not_mem]
  intro x hx
  obtain ⟨c, hc, hp⟩ := hn
  exact hp (isPlain_of_read? hx c hc)

/-- What is no operand reads as a string all the same. -/
theorem readOperand_of_not_isOperand (h : isOperand cs = false) (hn : trim cs ≠ []) :
    ∃ v, readOperand cs = .ok v ∧ Stray v := by
  simp only [isOperand, Bool.or_eq_false_iff, Option.isSome_eq_false_iff, Option.isNone_iff_eq_none,
    Bool.and_eq_false_imp, Bool.not_eq_true', List.isEmpty_eq_false_iff] at h
  obtain ⟨⟨hread, hquoted⟩, hword⟩ := h
  obtain ⟨c, hc, hblank⟩ : ∃ c ∈ trim cs, isBlank c = true := by simpa using hword hn
  have hv : readOperand cs =
      .ok (.string (String.ofList ((singleQuoted? (trim cs)).getD (trim cs)))) := by
    rw [readOperand, if_neg hn, hread]
  refine ⟨_, hv, ?_⟩
  cases hq : singleQuoted? (trim cs) with
  | none =>
    rw [Option.getD_none]
    refine stray_ofList ⟨c, hc, hblank⟩ ⟨c, ?_, fun hp => ?_⟩
    · rwa [trim_trim]
    · rw [hp.2] at hblank
      cases hblank
  | some inner =>
    rw [hq, Option.any_some, Bool.not_eq_false', List.contains_iff_mem] at hquoted
    rw [singleQuoted?_eq_some hq] at hc
    have hi : c ∈ inner := by
      simp only [List.cons_append, List.mem_cons, List.mem_append, List.not_mem_nil, or_false] at hc
      rcases hc with rfl | hc | rfl
      · cases hblank
      · exact hc
      · cases hblank
    rw [Option.getD_some]
    -- The blank may stand at an end of the inside and be trimmed off, but the quote inside stays.
    exact stray_ofList ⟨c, hi, hblank⟩ ⟨'\'', mem_trim hquoted rfl, by decide⟩

theorem strictEqual_iff (h : Stray v ∨ Stray w) : Payload.strictEqual v w = true ↔ v = w := by
  rcases h with ⟨s, rfl, -⟩ | ⟨s, rfl, -⟩
  · cases w <;> simp [Payload.strictEqual, Value.equal]
  · cases v <;> simp [Payload.strictEqual, Value.equal]

theorem looseEqual_iff (h : Stray v ∨ Stray w) :
    Payload.looseEqual v w = true ↔ Payload.coerced v = Payload.coerced w := by
  -- Null equals only itself, and its text has no blank in it.
  have hnull (s : String) (hb : ∃ c ∈ s.toList, isBlank c = true) : s ≠ Payload.coerced .null := by
    rintro rfl
    obtain ⟨c, hc, hblank⟩ := hb
    have hall : (Payload.coerced .null).toList.all (!isBlank ·) = true := by decide
    rw [(Bool.not_eq_true' _).mp (List.all_eq_true.mp hall c hc)] at hblank
    cases hblank
  rcases h with ⟨s, rfl, hb, hs⟩ | ⟨s, rfl, hb, hs⟩
  · cases w <;> simp [Payload.looseEqual, Value.equal, Value.isNull, hs, Payload.coerced]
    exact hnull s hb
  · cases v <;> simp [Payload.looseEqual, Value.equal, Value.isNull, hs, Payload.coerced]
    exact (hnull s hb).symm

theorem order_eq_ok_iff (h : Stray v ∨ Stray w) {o : Ordering} :
    order v w = .ok o ↔ ∃ s t, v = .string s ∧ w = .string t ∧ compare s t = o := by
  unfold order
  rcases h with ⟨s, rfl, -, hs⟩ | ⟨s, rfl, -, hs⟩
  · simp only [hs]
    cases w <;> simp
  · simp only [hs]
    cases v <;> simp

theorem map_order_iff (h : Stray v ∨ Stray w) (p : Ordering → Bool) :
    p <$> order v w = .ok true ↔ ∃ s t, v = .string s ∧ w = .string t ∧ p (compare s t) = true := by
  have hmap (x : Except ConditionFault Ordering) : p <$> x = .ok true ↔ ∃ o, x = .ok o ∧
      p o = true := by
    cases x <;> simp [Functor.map, Except.map]
  simp only [hmap, order_eq_ok_iff h]
  grind

theorem apply_iff_relates (h : Stray v ∨ Stray w) (operator : Operator) :
    operator.apply v w = .ok true ↔ operator.Relates v w := by
  cases operator with
  | strictEq => simp [Operator.apply, Operator.Relates, strictEqual_iff h]
  | strictNe => simp [Operator.apply, Operator.Relates, ← strictEqual_iff h]
  | looseEq => simp [Operator.apply, Operator.Relates, looseEqual_iff h]
  | looseNe => simp [Operator.apply, Operator.Relates, ← looseEqual_iff h]
  | gt => simp [Operator.apply, Operator.Relates, map_order_iff h]
  | lt => simp [Operator.apply, Operator.Relates, map_order_iff h]
  | ge => simp [Operator.apply, Operator.Relates, map_order_iff h]
  | le => simp [Operator.apply, Operator.Relates, map_order_iff h]

theorem evaluateExpression_of_head (hn : trim cs ≠ []) (hh : (trim cs).head? ≠ some '!') :
    evaluateExpression cs = evaluateComparison (trim cs) := by
  obtain ⟨before, after, hcs, hbefore, hafter⟩ := trim_decomposition cs
  obtain ⟨c, tail, hc, hb⟩ := (trimmed_trim hn).head
  have hend : trimEnd cs = before ++ trim cs := by
    have h := trimEnd_append (trimmed_trim hn) before hafter
    rwa [← hcs] at h
  have hne : c ≠ '!' := by
    rintro rfl
    rw [hc] at hh
    exact hh rfl
  have hstrip := stripNegations_of_head hb hne hbefore tail false
  rw [evaluateExpression, hend, hc, hstrip]
  simp only [if_neg (List.cons_ne_nil c tail), map_false_bne]

theorem evaluateExpression_of_blank (h : trim cs = []) :
    evaluateExpression cs = .error .emptyExpression := by
  obtain ⟨before, after, hcs, hbefore, hafter⟩ := trim_decomposition cs
  rw [h, List.append_nil] at hcs
  have hend : trimEnd cs = [] := by
    apply trimEnd_of_blanks
    rw [hcs]
    exact fun c hc => (List.mem_append.mp hc).elim (hbefore c) (hafter c)
  rw [evaluateExpression, hend]
  rfl

theorem evaluateComparison_of_split {left right : List Char} {operator : Operator}
    (h : splitOperator? .outside cs = some (left, operator, right)) :
    evaluateComparison cs = .ok true ↔
      ∃ v w, readOperand left = .ok v ∧ readOperand right = .ok w ∧
        operator.apply v w = .ok true := by
  rw [evaluateComparison, h]
  cases hl : readOperand left <;> cases hr : readOperand right <;> simp [bind, Except.bind, hl, hr]

theorem readOperand_of_blank (h : trim cs = []) : readOperand cs = .error .missingOperand := by
  rw [readOperand, if_pos h]

theorem readOperand_of_ne (h : trim cs ≠ []) : ∃ v, readOperand cs = .ok v := by
  rw [readOperand, if_neg h]
  split <;> exact ⟨_, rfl⟩

theorem isTruthy_of_stray (h : Stray v) : Payload.isTruthy v = true := by
  obtain ⟨s, rfl, ⟨c, hc, -⟩, -⟩ := h
  have hs : s ≠ "" := by
    rintro rfl
    cases hc
  simpa [Payload.isTruthy] using hs

theorem evaluateComparison_of_stray (h : isOperand cs = false) (hn : trim cs ≠ [])
    (hsplit : splitOperator? .outside (trim cs) = none) :
    evaluateComparison (trim cs) = .ok true := by
  obtain ⟨v, hv, hstray⟩ := readOperand_of_not_isOperand h hn
  have hread : readOperand (trim cs) = .ok v := by rwa [readOperand, trim_trim]
  rw [evaluateComparison, hsplit]
  simp only [hread]
  exact congrArg Except.ok (isTruthy_of_stray hstray)

theorem evaluate_eq_false_iff {history : History} {last : Option Outcome} {condition : String}
    (h : substitute history last condition = .ok cs) :
    evaluate history last condition = false ↔ evaluateExpression cs ≠ .ok true := by
  rw [evaluate, evaluate?, h]
  cases he : evaluateExpression cs with
  | error e => simp [bind, Except.bind, Except.mapError, he]
  | ok b => cases b <;> simp [bind, Except.bind, Except.mapError, he]

/-- A condition that is no expression is false just if it is empty, or its operator lacks a side or
does not relate the texts on its sides. -/
theorem malformed_false_iff (history : History) (last : Option Outcome) (condition : String)
    (cs : List Char) (hs : substitute history last condition = .ok cs)
    (hh : (trim cs).head? ≠ some '!') (he : isExpression cs = false) :
    evaluate history last condition = false ↔
      trim cs = [] ∨ ∃ left operator right, splitOperator? .outside (trim cs) =
        some (left, operator, right) ∧
        (trim left = [] ∨ trim right = [] ∨
          ∃ v w, readOperand left = .ok v ∧ readOperand right = .ok w ∧
            ¬ operator.Relates v w) := by
  obtain ⟨hone, htwo⟩ := Bool.or_eq_false_iff.mp he
  rw [evaluate_eq_false_iff hs]
  by_cases hn : trim cs = []
  · rw [evaluateExpression_of_blank hn]
    exact ⟨fun _ => .inl hn, fun _ => nofun⟩
  · rw [evaluateExpression_of_head hn hh]
    cases hsplit : splitOperator? .outside (trim cs) with
    | none =>
      simp [evaluateComparison_of_stray hone hn hsplit, hn]
    | some sides =>
      obtain ⟨left, operator, right⟩ := sides
      rw [hsplit, Option.any_some, Bool.and_eq_false_iff] at htwo
      rw [ne_eq, evaluateComparison_of_split hsplit]
      by_cases hl : trim left = []
      · simp [readOperand_of_blank hl, hl, hn]
      · by_cases hr : trim right = []
        · simp [readOperand_of_blank hr, hr, hn]
        · obtain ⟨v, hv⟩ := readOperand_of_ne hl
          obtain ⟨w, hw⟩ := readOperand_of_ne hr
          have hstray : Stray v ∨ Stray w := by
            rcases htwo with h | h
            · obtain ⟨u, hu, hstray⟩ := readOperand_of_not_isOperand h hl
              rw [hv] at hu
              cases hu
              exact .inl hstray
            · obtain ⟨u, hu, hstray⟩ := readOperand_of_not_isOperand h hr
              rw [hw] at hu
              cases hu
              exact .inr hstray
          simp [hv, hw, hl, hr, hn, apply_iff_relates hstray]

/-- Two words on one side of an operator are compared as one text. -/
theorem malformed_false_iff_rehearsed :
    let condition := "open or shut == open"
    let cs := condition.toList
    substitute [] none condition = .ok cs ∧ (trim cs).head? ≠ some '!' ∧ isExpression cs = false ∧
      evaluate [] none condition = false := by
  intro condition cs
  have hs : substitute [] none condition = .ok cs := substitute_of_all_ne (by decide +kernel)
  have hh : (trim cs).head? ≠ some '!' := by decide +kernel
  have he : isExpression cs = false := by decide +kernel
  have hsplit : splitOperator? .outside (trim cs) =
      some ("open or shut ".toList, .looseEq, " open".toList) := by
    decide +kernel
  have hleft : readOperand "open or shut ".toList = .ok (.string "open or shut") := by rfl
  have hright : readOperand " open".toList = .ok (.string "open") := by rfl
  refine ⟨hs, hh, he, (malformed_false_iff [] none condition cs hs hh he).mpr (.inr ?_)⟩
  exact ⟨_, _, _, hsplit,
    .inr (.inr ⟨_, _, hleft, hright, by simp [Operator.Relates, Payload.coerced]⟩)⟩

/-- Words with spaces between them are no expression, and hold even where one of them is `false`. -/
theorem false_and_true_holds :
    let condition := "false and true"
    let cs := condition.toList
    substitute [] none condition = .ok cs ∧ (trim cs).head? ≠ some '!' ∧ isExpression cs = false ∧
      evaluate [] none condition = true := by
  intro condition cs
  have hs : substitute [] none condition = .ok cs := substitute_of_all_ne (by decide +kernel)
  have hn : trim cs ≠ [] := by decide +kernel
  have hh : (trim cs).head? ≠ some '!' := by decide +kernel
  have ho : isOperand cs = false := by decide +kernel
  have hv : evaluateExpression cs = .ok true := by
    rw [evaluateExpression_of_head hn hh]
    exact evaluateComparison_of_stray ho hn (by decide +kernel)
  refine ⟨hs, hh, by decide +kernel, ?_⟩
  have hne : ¬ evaluate [] none condition = false := fun h => (evaluate_eq_false_iff hs).mp h hv
  simpa using hne

end Toolflow.Condition
