import Toolflow.Condition.Evaluate
import Toolflow.Proofs.Directive.Written

/-!
References as they are written, and the substitution of their values. A reference in front of a text
that does not go on with it is read as such (`Names.reads`), and substitution puts the JSON text of
its value in its place and goes on behind it (`Names.expand`).
-/

namespace Toolflow.Condition

open Json Text

def IsSegment (segment : String) : Prop :=
  segment ≠ "" ∧ ∀ c ∈ segment.toList, isPathChar c = true

instance (segment : String) : Decidable (IsSegment segment) :=
  decidable_of_iff (segment ≠ "" ∧ segment.toList.all isPathChar = true)
    (and_congr Iff.rfl List.all_eq_true)

/-- What a path leads to in an outcome: the whole envelope if it is empty, and null if it leads
nowhere. -/
def part (o : Outcome) (path : List String) : Value :=
  if path = [] then o.envelope else (o.lookup path).toOption.getD .null

/-- A text is a reference to a value: `RESULT_` and a position in decimal, or `LAST_RESULT`, and a
path. -/
inductive Names (history : History) (last : Option Outcome) : List Char → Value → Prop
  | entry {i : Nat} {entry : Entry} {path : List String} (found : history[i]? = some entry)
      (valid : ∀ segment ∈ path, IsSegment segment) :
      Names history last ("RESULT_".toList ++ Nat.toDigits 10 i ++ dotted path)
        (part entry.outcome path)
  | last {o : Outcome} {path : List String} (found : last = some o)
    (valid : ∀ segment ∈ path, IsSegment segment) :
      Names history last ("LAST_RESULT".toList ++ dotted path) (part o path)

/-- A text that does not go on with a reference in front of it. -/
def EndsReference (rest : List Char) : Prop :=
  ∀ c, rest.head? = some c → isDecimalDigit c = false ∧ isPathChar c = false ∧ c ≠ '.'

theorem endsReference_nil : EndsReference [] :=
  nofun

theorem endsReference_space (cs : List Char) : EndsReference (' ' :: cs) := by
  rintro c hc
  cases hc
  decide +kernel

theorem isDecimalDigit_of_isDigit {c : Char} (h : c.isDigit = true) : isDecimalDigit c = true := by
  have hd : 48 ≤ c.toNat ∧ c.toNat ≤ 57 := Char.isDigit_iff_toNat.mp h
  simp [isDecimalDigit, CharSet.contains, decimalDigits, hd]

section Reading

variable {path : List String} {rest : List Char}

theorem IsSegment.notMem_dot {segment : String} (h : IsSegment segment) : '.' ∉ segment.toList := by
  intro hd
  cases h.2 '.' hd

theorem isPath_of_isSegment (h : ∀ segment ∈ path, IsSegment segment) : Directive.IsPath path :=
  fun segment hs => ⟨(h segment hs).1, (h segment hs).notMem_dot⟩

theorem segments_path (h : ∀ segment ∈ path, IsSegment segment) : segments (dotted path) = path :=
  segments_dotted (fun segment hs => (h segment hs).notMem_dot) fun segment hs => (h segment hs).1

theorem spanPath_append {cs : List Char} (h : ∀ c ∈ cs, isPathChar c = true) (rest : List Char) :
    spanPath true (cs ++ rest) = (cs ++ (spanPath true rest).1, (spanPath true rest).2) := by
  induction cs with
  | nil => rfl
  | cons c cs ih =>
    obtain ⟨hc, hcs⟩ := List.forall_mem_cons.mp h
    rw [List.cons_append, spanPath, hc, ih hcs]
    rfl

theorem spanPath_dotted (h : ∀ segment ∈ path, IsSegment segment) (hr : EndsReference rest)
    (inside : Bool) :
    spanPath inside (dotted path ++ rest) = (dotted path, rest) := by
  induction path generalizing inside with
  | nil =>
    cases rest with
    | nil => rfl
    | cons c rest =>
      obtain ⟨-, hp, hd⟩ := hr c rfl
      have hb : (c == '.') = false := beq_eq_false_iff_ne.mpr hd
      rw [dotted, List.flatMap_nil, List.nil_append, spanPath, hp, hb]
      simp
  | cons segment path ih =>
    obtain ⟨⟨hn, hc⟩, hp⟩ := List.forall_mem_cons.mp h
    obtain ⟨c, cs, hcs⟩ : ∃ c cs, segment.toList = c :: cs :=
      List.exists_cons_of_ne_nil fun he => hn (String.toList_eq_nil_iff.mp he)
    have hd : dotted (segment :: path) ++ rest = '.' ::
        (segment.toList ++ (dotted path ++ rest)) := by simp [dotted]
    have hhead : (segment.toList ++ (dotted path ++ rest)).head?.any isPathChar = true := by
      rw [hcs] at hc ⊢
      exact hc c List.mem_cons_self
    rw [hd, spanPath, hhead, spanPath_append hc, ih hp]
    simp [dotted]

theorem readReference?_of_readTarget? {cs : List Char} {digits : Option (List Char)}
    (ht : readTarget? cs = some (digits, dotted path ++ rest))
    (h : ∀ segment ∈ path, IsSegment segment)
    (hr : EndsReference rest) : readReference? cs = some (⟨digits, dotted path⟩, rest) := by
  rw [readReference?, ht, Option.map_some]
  simp only [spanPath_dotted h hr]

theorem dotted_head (path : List String) : ∀ c, (dotted path).head? = some c → c = '.' := by
  cases path with
  | nil => exact nofun
  | cons segment path =>
    rintro c hc
    cases hc
    rfl

theorem readTarget?_last (rest : List Char) :
    readTarget? ("LAST_RESULT".toList ++ rest) = some (none, rest) := by
  have ha : after? "LAST_RESULT" ("LAST_RESULT".toList ++ rest) = some rest :=
    after?_eq_some.mpr rfl
  rw [readTarget?, ha]

theorem readTarget?_entry {digits : List Char} (hd : ∀ c ∈ digits, isDecimalDigit c = true)
    (hn : digits ≠ []) (hr : ∀ c, rest.head? = some c → isDecimalDigit c = false) :
    readTarget? ("RESULT_".toList ++ digits ++ rest) = some (some digits, rest) := by
  have hl : after? "LAST_RESULT" ("RESULT_".toList ++ digits ++ rest) = none := by
    rw [Option.eq_none_iff_forall_not_mem]
    intro tail ht
    cases after?_eq_some.mp ht
  have ha : after? "RESULT_" ("RESULT_".toList ++ digits ++ rest) = some (digits ++ rest) :=
    after?_eq_some.mpr (List.append_assoc _ _ _)
  have ht : (digits ++ rest).takeWhile isDecimalDigit = digits := by
    rw [List.takeWhile_append_of_pos hd]
    cases rest with
    | nil => simp
    | cons c rest => simp [hr c rfl]
  have hdrop : (digits ++ rest).dropWhile isDecimalDigit = rest := by
    rw [List.dropWhile_append_of_pos hd]
    cases rest with
    | nil => rfl
    | cons c rest => simp [hr c rfl]
  rw [readTarget?, hl, ha]
  simp only [ht, hdrop, if_neg hn]

end Reading

variable {history : History} {last : Option Outcome} {text rest : List Char} {v : Value}

theorem value_of_outcome {r : Reference} {o : Outcome} {path : List String}
    (ho : r.outcome history last = .ok o) (hp : r.path = dotted path)
    (h : ∀ segment ∈ path, IsSegment segment) :
    r.value history last = .ok (part o path) := by
  unfold Reference.value part
  rw [ho, hp, segments_path h]
  cases path with
  | nil => rfl
  | cons segment path =>
    simp only [Except.bind, bind, pure, Except.pure, if_neg (List.cons_ne_nil segment path)]
    cases o.lookup (segment :: path) <;> rfl

theorem Names.reads (h : Names history last text v) (hl : history.length ≤ UInt64.size) :
    ∃ r : Reference, (∀ rest, EndsReference rest → readReference? (text ++ rest) = some (r, rest)) ∧
      r.value history last = .ok v := by
  cases h with
  | @entry i entry path found valid =>
    refine ⟨⟨some (Nat.toDigits 10 i), dotted path⟩, ?_, value_of_outcome ?_ rfl valid⟩
    · intro rest hr
      have hd : ∀ c ∈ Nat.toDigits 10 i, isDecimalDigit c = true := fun c hc =>
        isDecimalDigit_of_isDigit (isDigit_of_mem_toDigits hc)
      have he : ∀ c, (dotted path ++ rest).head? = some c → isDecimalDigit c = false := by
        intro c hc
        cases hp : dotted path with
        | nil =>
          rw [hp] at hc
          exact (hr c hc).1
        | cons d ds =>
          rw [hp] at hc
          cases hc
          rw [dotted_head path c (by rw [hp]; rfl)]
          decide +kernel
      rw [List.append_assoc]
      exact readReference?_of_readTarget? (readTarget?_entry hd Nat.toDigits_ne_nil he) valid hr
    · have hi : i < UInt64.size := Nat.lt_of_lt_of_le (List.getElem?_eq_some_iff.mp found).1 hl
      simp only [Reference.outcome, readCount?_toDigits hi, History.entryAt, found]
      rfl
  | @last o path found valid =>
    refine ⟨⟨none, dotted path⟩, ?_, value_of_outcome ?_ rfl valid⟩
    · intro rest hr
      rw [List.append_assoc]
      exact readReference?_of_readTarget? (readTarget?_last _) valid hr
    · simp only [Reference.outcome, found]

variable (history last) in
/-- The rest of a condition with its references substituted. -/
def expand (afterWord : Bool) (cs : List Char) : Resolved (List Char) :=
  List.flatten <$> (pieces afterWord cs).mapM (Piece.expand history last)

theorem expand_nil (afterWord : Bool) : expand history last afterWord [] = .ok [] := by
  rw [expand, pieces]
  rfl

theorem expand_of_pieces {p : Piece} {ps cs : List Char} {out : List Char} {afterWord behind : Bool}
    (hp : pieces afterWord cs = p :: pieces behind ps) (he : p.expand history last = .ok out) :
    expand history last afterWord cs = (out ++ ·) <$> expand history last behind ps := by
  rw [expand, expand, hp, List.mapM_cons, he]
  cases (pieces behind ps).mapM (Piece.expand history last) <;> rfl

theorem Names.expand (h : Names history last text v) (hl : history.length ≤ UInt64.size)
    (hr : EndsReference rest) :
    expand history last false (text ++ rest) =
      (v.chars ++ ·) <$> expand history last true rest := by
  obtain ⟨r, hread, hv⟩ := h.reads hl
  have hread := hread rest hr
  have hp : pieces false (text ++ rest) = .reference r :: pieces true rest := by
    cases ht : text ++ rest with
    | nil =>
      rw [ht] at hread
      cases hread
    | cons c cs =>
      rw [ht] at hread
      have ha : referenceAt? false (c :: cs) = some (r, rest) := hread
      rw [pieces]
      split <;> grind
  refine expand_of_pieces hp ?_
  rw [Piece.expand, hv]
  rfl

theorem expand_char {c : Char} (hl : c ≠ 'L') (hr : c ≠ 'R') (afterWord : Bool) (cs : List Char) :
    expand history last afterWord (c :: cs) =
      (c :: ·) <$> expand history last (isWordChar c) cs := by
  have ht : readTarget? (c :: cs) = none := by
    have hlast : after? "LAST_RESULT" (c :: cs) = none := by
      rw [Option.eq_none_iff_forall_not_mem]
      intro tail ht
      cases after?_eq_some.mp ht
      exact hl rfl
    have hresult : after? "RESULT_" (c :: cs) = none := by
      rw [Option.eq_none_iff_forall_not_mem]
      intro tail ht
      cases after?_eq_some.mp ht
      exact hr rfl
    rw [readTarget?, hlast, hresult]
  have ha : referenceAt? afterWord (c :: cs) = none := by
    cases afterWord
    · simp [referenceAt?, readReference?, ht]
    · rfl
  have hp : pieces afterWord (c :: cs) = .char c :: pieces (isWordChar c) cs := by
    rw [pieces]
    split <;> grind
  exact expand_of_pieces hp rfl

theorem expand_of_all_ne {cs : List Char} (h : cs.all (fun c => c != 'L' && c != 'R') = true)
    (afterWord : Bool) :
    expand history last afterWord cs = .ok cs := by
  induction cs generalizing afterWord with
  | nil => exact expand_nil afterWord
  | cons c cs ih =>
    obtain ⟨hc, hcs⟩ := Bool.and_eq_true_iff.mp h
    obtain ⟨hl, hr⟩ : c ≠ 'L' ∧ c ≠ 'R' := by simpa using hc
    rw [expand_char hl hr, ih hcs]
    rfl

/-- A condition in which no reference can begin stays as it is. -/
theorem substitute_of_all_ne {condition : String}
    (h : condition.toList.all (fun c => c != 'L' && c != 'R') = true) :
    substitute history last condition = .ok condition.toList :=
  expand_of_all_ne h false

/-- Of a reference with no other one behind it, its value alone is put in. -/
theorem Names.substitute (h : Names history last text v) (hl : history.length ≤ UInt64.size)
    (hr : EndsReference rest) (hn : rest.all (fun c => c != 'L' && c != 'R') = true) :
    substitute history last (String.ofList (text ++ rest)) = .ok (v.chars ++ rest) := by
  have he : Condition.substitute history last (String.ofList (text ++ rest)) =
      Condition.expand history last false (text ++ rest) := by
    rw [Condition.expand, Condition.substitute, String.toList_ofList]
  rw [he, h.expand hl hr, expand_of_all_ne hn]
  rfl

/-- A character behind which a word begins, and which no reference begins with. -/
def isGap (c : Char) : Bool :=
  !isWordChar c && c != 'L' && c != 'R'

theorem expand_gap {c : Char} (h : isGap c = true) (afterWord : Bool) (cs : List Char) :
    expand history last afterWord (c :: cs) = (c :: ·) <$> expand history last false cs := by
  obtain ⟨⟨hw, hl⟩, hr⟩ : (isWordChar c = false ∧ c ≠ 'L') ∧ c ≠ 'R' := by simpa [isGap] using h
  rw [expand_char hl hr, hw]

theorem expand_append {cs : List Char} (h : cs.all isGap = true) (rest : List Char) :
    expand history last false (cs ++ rest) = (cs ++ ·) <$> expand history last false rest := by
  induction cs with
  | nil =>
    rw [List.nil_append]
    cases expand history last false rest <;> rfl
  | cons c cs ih =>
    obtain ⟨hc, hcs⟩ := Bool.and_eq_true_iff.mp h
    rw [List.cons_append, expand_gap hc, ih hcs]
    cases expand history last false rest <;> rfl

end Toolflow.Condition
