import Toolflow.Condition.Expression
import Toolflow.Proofs.Json.RoundTrip
import Toolflow.Proofs.Text.Parts

/-!
The scan for an operator passes over JSON text: whatever a value holds, no operator is seen in its
text, and behind the text the scan is outside quotes again (`passes_chars`). The text also begins
and ends in a way that trimming and the scan for negations leave alone.
-/

namespace Toolflow.Condition

open Json Text

/-- The scan sees no operator in a text, and comes out of it with the second quoting when it comes
with the first. -/
def Passes (q : Quoting) (text : List Char) (q' : Quoting) : Prop :=
  ∀ rest, splitOperator? q (text ++ rest) = (splitOperator? q' rest).map fun r => (text ++ r.1, r.2)

/-- A character that is neither a quote nor part of an operator. -/
def isPlain (c : Char) : Bool :=
  !isQuote c && !(['=', '!', '>', '<'].contains c)

variable {q r s : Quoting} {t u : List Char} {c : Char}

theorem Passes.nil (q : Quoting) : Passes q [] q := by
  intro rest
  cases h : splitOperator? q rest <;> simp [h]

theorem Passes.append (ht : Passes q t r) (hu : Passes r u s) : Passes q (t ++ u) s := by
  intro rest
  rw [List.append_assoc, ht, hu, Option.map_map]
  simp [Function.comp_def]

theorem Passes.cons (ht : Passes q [c] r) (hu : Passes r u s) : Passes q (c :: u) s :=
  ht.append hu

theorem readOperator?_eq_none (h : ['=', '!', '>', '<'].contains c = false) (cs : List Char) :
    readOperator? (c :: cs) = none := by
  have hlead : ∀ o ∈ operators, o.1.toList.head?.any ['=', '!', '>', '<'].contains = true := by
    decide +kernel
  rw [readOperator?, List.findSome?_eq_none_iff]
  intro o ho
  rw [Option.map_eq_none_iff, Option.eq_none_iff_forall_not_mem]
  intro rest hr
  have hc := hlead o ho
  have he := after?_eq_some.mp hr
  cases hd : o.1.toList with
  | nil => rw [hd] at hc; cases hc
  | cons d ds =>
    rw [hd, List.cons_append] at he
    cases he
    rw [hd, List.head?_cons, Option.any_some, h] at hc
    cases hc

theorem passes_char (h : q = .outside → ∀ cs, readOperator? (c :: cs) = none) :
    Passes q [c] (q.next c) := by
  intro rest
  rw [List.singleton_append, splitOperator?]
  by_cases hq : q = .outside
  · rw [if_pos hq, h hq]
    rfl
  · rw [if_neg hq]
    rfl

theorem passes_plain (h : isPlain c = true) : Passes .outside [c] .outside := by
  obtain ⟨hq, ho⟩ : isQuote c = false ∧ ['=', '!', '>', '<'].contains c = false := by
    simpa [isPlain] using h
  have hp : Passes .outside [c] (Quoting.next .outside c) := passes_char fun _ =>
    readOperator?_eq_none ho
  rwa [Quoting.next, hq, if_neg Bool.false_ne_true] at hp

theorem passes_of_all_plain (h : t.all isPlain = true) : Passes .outside t .outside := by
  induction t with
  | nil => exact Passes.nil _
  | cons c t ih =>
    obtain ⟨hc, ht⟩ := Bool.and_eq_true_iff.mp h
    exact (passes_plain hc).cons (ih ht)

theorem passes_inside {quote : Char} (hb : c ≠ '\\') (hq : c ≠ quote) :
    Passes (.inside quote) [c] (.inside quote) := by
  have hp : Passes (.inside quote) [c] (Quoting.next (.inside quote) c) := passes_char nofun
  rwa [Quoting.next, if_neg hb, if_neg hq] at hp

theorem passes_escape (quote c : Char) : Passes (.inside quote) ['\\', c] (.inside quote) := by
  have hb : Passes (.inside quote) ['\\'] (.escaped quote) := passes_char nofun
  have hc : Passes (.escaped quote) [c] (.inside quote) := passes_char nofun
  exact hb.cons hc

theorem digitChar_plain : ∀ n < 16, Nat.digitChar n ≠ '\\' ∧ Nat.digitChar n ≠ '"' := by
  decide

theorem passes_escapedChars (c : Char) : Passes (.inside '"') (escapedChars c) (.inside '"') := by
  unfold escapedChars
  split
  · next letter _ => exact passes_escape '"' letter
  · next hn =>
    split
    · next hc =>
      obtain ⟨hb, hq⟩ := digitChar_plain (c.toNat / 16) (by omega)
      obtain ⟨hb', hq'⟩ := digitChar_plain (c.toNat % 16) (by omega)
      have hzero : Passes (.inside '"') ['0', '0'] (.inside '"') :=
        (passes_inside (by decide) (by decide)).cons (passes_inside (by decide) (by decide))
      have hdigits : Passes (.inside '"')
          [Nat.digitChar (c.toNat / 16), Nat.digitChar (c.toNat % 16)] (.inside '"') :=
        (passes_inside hb hq).cons (passes_inside hb' hq')
      exact (passes_escape '"' 'u').append (hzero.append hdigits)
    · have hb : c ≠ '\\' := by rintro rfl; cases hn
      have hq : c ≠ '"' := by rintro rfl; cases hn
      exact passes_inside hb hq

theorem passes_stringChars (text : String) : Passes .outside (stringChars text) .outside := by
  have hopen : Passes .outside ['"'] (.inside '"') := passes_char fun _ => readOperator?_eq_none rfl
  have hclose : Passes (.inside '"') ['"'] .outside := passes_char nofun
  have hinside (cs : List Char) : Passes (.inside '"') (cs.flatMap escapedChars) (.inside '"') := by
    induction cs with
    | nil => exact Passes.nil _
    | cons c cs ih => exact (passes_escapedChars c).append ih
  exact (hopen.append (hinside text.toList)).append hclose

theorem passes_join {α : Type} {text : α → List Char} {items : List α}
    (h : ∀ a ∈ items, Passes .outside (text a) .outside) :
    Passes .outside (join ',' (items.map text)) .outside := by
  induction items with
  | nil => exact Passes.nil _
  | cons a items ih =>
    obtain ⟨ha, hi⟩ := List.forall_mem_cons.mp h
    cases items with
    | nil => exact ha
    | cons b items => exact ha.append ((passes_plain rfl).cons (ih hi))

theorem isPlain_of_isNumeralChar (h : isNumeralChar c = true) :
    isPlain c = true ∧ isBlank c = false := by
  simp only [isNumeralChar, Bool.or_eq_true, beq_iff_eq] at h
  rcases h with ((((h | rfl) | rfl) | rfl) | rfl) | rfl
  · refine ⟨?_, isBlank_of_isDigit h⟩
    simp only [isPlain, isQuote, List.contains_cons, List.contains_nil, Bool.or_false,
      Bool.and_eq_true, Bool.not_eq_true', Bool.or_eq_false_iff, beq_eq_false_iff_ne]
    refine ⟨⟨?_, ?_⟩, ?_, ?_, ?_, ?_⟩ <;> rintro rfl <;> cases h
  all_goals decide

/-- Strings are passed over inside quotes, and all other characters of JSON text are plain. -/
theorem passes_chars (v : Value) : Passes .outside v.chars .outside := by
  induction v using Value.induct with
  | null => exact passes_of_all_plain rfl
  | bool b => cases b <;> exact passes_of_all_plain rfl
  | number n =>
    apply passes_of_all_plain
    exact List.all_eq_true.mpr fun c hc =>
      (isPlain_of_isNumeralChar (n.isNumeralChar_of_mem_chars c hc)).1
  | string s => exact passes_stringChars s
  | array items ih =>
    have hc : Value.chars (.array items) = '[' :: join ',' (items.map Value.chars) ++ [']'] := by
      rw [Value.chars, Value.itemChars_eq]
    rw [hc]
    exact ((passes_plain rfl).cons (passes_join ih)).append (passes_plain rfl)
  | object members ih =>
    have hi : ∀ m ∈ members, Passes .outside (Value.memberText m) .outside := fun m hm =>
      (passes_stringChars m.1).append ((passes_plain rfl).cons (ih m hm))
    have hc : Value.chars (.object members) =
        '\x7b' :: join ',' (members.map Value.memberText) ++ ['\x7d'] := by
      rw [Value.chars, Value.memberChars_eq]
    rw [hc]
    exact ((passes_plain rfl).cons (passes_join hi)).append (passes_plain rfl)

theorem not_blank_of_opens (h : Value.opens c = true) : isBlank c = false ∧ c ≠ '!' ∧ c ≠ '=' := by
  rcases Bool.or_eq_true_iff.mp h with h | h
  · refine ⟨(isPlain_of_isNumeralChar h).2, ?_, ?_⟩ <;> rintro rfl <;> cases h
  · simp only [List.contains_iff_mem, List.mem_cons, List.not_mem_nil, or_false] at h
    rcases h with rfl | rfl | rfl | rfl | rfl | rfl <;> decide

theorem trimmed_chars (v : Value) : Trimmed v.chars := by
  obtain ⟨c, cs, hc, ho⟩ := v.opens_chars
  refine ⟨⟨c, cs, hc, (not_blank_of_opens ho).1⟩, ?_⟩
  cases v with
  | null => exact ⟨['n', 'u', 'l'], 'l', rfl, rfl⟩
  | bool b =>
    cases b
    · exact ⟨['f', 'a', 'l', 's'], 'e', rfl, rfl⟩
    · exact ⟨['t', 'r', 'u'], 'e', rfl, rfl⟩
  | number n =>
    refine ⟨_, _, (List.dropLast_concat_getLast n.chars_ne_nil).symm, ?_⟩
    exact (isPlain_of_isNumeralChar (n.isNumeralChar_of_mem_chars _ (List.getLast_mem _))).2
  | string s => exact ⟨'"' :: s.toList.flatMap escapedChars, '"', rfl, rfl⟩
  | array items => exact ⟨'[' :: Value.itemChars items, ']', rfl, rfl⟩
  | object members => exact ⟨'\x7b' :: Value.memberChars members, '\x7d', rfl, rfl⟩

theorem stripNegations_of_head (hb : isBlank c = false) (hc : c ≠ '!') {blanks : List Char}
    (hblanks : ∀ c ∈ blanks, isBlank c = true) (tail : List Char) (negated : Bool) :
    stripNegations negated (blanks ++ c :: tail) = (negated, c :: tail) := by
  induction blanks with
  | nil =>
    rw [List.nil_append, stripNegations, hb, if_neg Bool.false_ne_true, if_neg fun h => hc h.1]
  | cons d blanks ih =>
    obtain ⟨hd, hblanks⟩ := List.forall_mem_cons.mp hblanks
    rw [List.cons_append, stripNegations, if_pos hd, ih hblanks]

theorem map_false_bne {ε : Type} (x : Except ε Bool) : (false != ·) <$> x = x := by
  have hid : ((false != ·) : Bool → Bool) = id := by
    funext b
    exact Bool.false_bne b
  rw [hid, id_map]

theorem readOperand_chars {v : Value} (h : Value.Readable maxDepth v) {before after : List Char}
    (hb : ∀ c ∈ before, isBlank c = true) (ha : ∀ c ∈ after, isBlank c = true) :
    readOperand (before ++ v.chars ++ after) = .ok v := by
  have ht := trimmed_chars v
  rw [readOperand, trim_surrounded ht hb ha, Value.read?_chars h, if_neg ht.ne_nil]

/-- A value that is not read back, such as one that nests too deep, is read as something else than
null all the same. -/
theorem readOperand_isNull (v : Value) {before after : List Char}
    (hb : ∀ c ∈ before, isBlank c = true) (ha : ∀ c ∈ after, isBlank c = true) :
    ∃ w, readOperand (before ++ v.chars ++ after) = .ok w ∧ w.isNull = v.isNull := by
  have ht := trimmed_chars v
  rw [readOperand, trim_surrounded ht hb ha, if_neg ht.ne_nil]
  cases hr : read? v.chars with
  | some w => exact ⟨w, rfl, Value.isNull_of_read?_chars hr⟩
  | none =>
    refine ⟨_, rfl, ?_⟩
    cases hn : v.isNull with
    | false => rfl
    | true =>
      obtain rfl := Value.isNull_iff.mp hn
      cases hr

end Toolflow.Condition
