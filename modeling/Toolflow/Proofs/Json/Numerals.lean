import Mathlib.Data.List.TakeDrop
import Mathlib.Data.List.TakeWhile
import Toolflow.Binary64.Reader
import Toolflow.Json.Printer
import Toolflow.Json.Reader

/-!
Numbers inside longer texts. Each part of the reader for numbers uses characters of numerals only
and reads the same before any text that cannot continue a numeral (`ReadsNumeral`), so a number that
reads back alone reads back anywhere. The text of a number, read back or not, is made of such
characters (`Number.isNumeralChar_of_mem_chars`).
-/

namespace Toolflow.Json

/-- The characters that numerals are made of. -/
def isNumeralChar (c : Char) : Bool :=
  c.isDigit || c == '-' || c == '+' || c == '.' || c == 'e' || c == 'E'

/-- A text that does not continue a numeral in front of it. -/
def EndsNumeral (rest : List Char) : Prop :=
  rest.head?.any isNumeralChar = false

structure ReadsNumeral {α : Type} (read : Reader α) : Prop where
  used : ∀ {cs left : List Char} {a : α}, read cs = some (a, left) →
    ∃ front, cs = front ++ left ∧ ∀ c ∈ front, isNumeralChar c = true
  before : ∀ {cs left rest : List Char} {a : α}, read cs = some (a, left) → EndsNumeral rest →
    read (cs ++ rest) = some (a, left ++ rest)

theorem isNumeralChar_of_isDigit {c : Char} (h : c.isDigit = true) : isNumeralChar c = true := by
  simp [isNumeralChar, h]

theorem EndsNumeral.isDigit_eq_false {c : Char} {rest : List Char} (h : EndsNumeral (c :: rest)) :
    c.isDigit = false := by
  have hc : isNumeralChar c = false := h
  cases hd : c.isDigit
  · rfl
  · rw [isNumeralChar_of_isDigit hd] at hc
    cases hc

theorem EndsNumeral.takeWhile_isDigit {rest : List Char} (h : EndsNumeral rest) :
    rest.takeWhile Char.isDigit = [] := by
  cases rest with
  | nil => rfl
  | cons c rest => rw [List.takeWhile_cons, h.isDigit_eq_false, if_neg Bool.false_ne_true]

theorem EndsNumeral.dropWhile_isDigit {rest : List Char} (h : EndsNumeral rest) :
    rest.dropWhile Char.isDigit = rest := by
  cases rest with
  | nil => rfl
  | cons c rest => rw [List.dropWhile_cons, h.isDigit_eq_false, if_neg Bool.false_ne_true]

theorem readDigits_eq_some_iff {cs digits left : List Char} :
    readDigits cs = some (digits, left) ↔
      digits ≠ [] ∧ cs.takeWhile Char.isDigit = digits ∧ cs.dropWhile Char.isDigit = left := by
  unfold readDigits
  rw [List.span_eq_takeWhile_dropWhile]
  cases cs.takeWhile Char.isDigit <;> simp <;> grind

theorem readsNumeral_readDigits : ReadsNumeral readDigits where
  used {cs left digits} h := by
    obtain ⟨-, rfl, rfl⟩ := readDigits_eq_some_iff.mp h
    refine ⟨_, (List.takeWhile_append_dropWhile).symm, fun c hc => ?_⟩
    exact isNumeralChar_of_isDigit (List.mem_takeWhile_imp hc)
  before {cs left rest digits} h hr := by
    obtain ⟨hn, rfl, rfl⟩ := readDigits_eq_some_iff.mp h
    rw [readDigits_eq_some_iff]
    refine ⟨hn, ?_, ?_⟩
    · rw [List.takeWhile_append]
      split
      · next hl =>
          rw [hr.takeWhile_isDigit, List.append_nil, (List.takeWhile_prefix _).eq_of_length hl]
      · rfl
    · rw [List.dropWhile_append, hr.dropWhile_isDigit]
      split
      · next hl => rw [List.isEmpty_iff.mp hl, List.nil_append]
      · rfl

theorem readWhole_eq_some_iff {cs digits left : List Char} :
    readWhole cs = some (digits, left) ↔
      readDigits cs = some (digits, left) ∧ ¬ (digits.head? = some '0' ∧ digits ≠ ['0']) := by
  unfold readWhole
  cases readDigits cs with
  | none => simp
  | some r =>
    obtain ⟨ds, l⟩ := r
    simp only [Option.bind_eq_bind, Option.bind_some]
    split <;> grind

theorem readsNumeral_readWhole : ReadsNumeral readWhole where
  used h := readsNumeral_readDigits.used (readWhole_eq_some_iff.mp h).1
  before h hr := by
    obtain ⟨hd, hz⟩ := readWhole_eq_some_iff.mp h
    exact readWhole_eq_some_iff.mpr ⟨readsNumeral_readDigits.before hd hr, hz⟩

theorem readsNumeral_readFraction : ReadsNumeral readFraction where
  used {cs left fraction} h := by
    unfold readFraction at h
    split at h
    · next rest =>
      obtain ⟨⟨digits, _⟩, hd, he⟩ := Option.map_eq_some_iff.mp h
      cases he
      obtain ⟨front, rfl, hf⟩ := readsNumeral_readDigits.used hd
      exact ⟨'.' :: front, rfl, List.forall_mem_cons.mpr ⟨rfl, hf⟩⟩
    · cases h
      exact ⟨[], rfl, by simp⟩
  before {cs left rest fraction} h hr := by
    unfold readFraction at h
    split at h
    · next cs =>
      obtain ⟨⟨digits, _⟩, hd, he⟩ := Option.map_eq_some_iff.mp h
      cases he
      simp only [readFraction, List.cons_append, readsNumeral_readDigits.before hd hr,
        Option.map_some]
    · next hn =>
      cases h
      unfold readFraction
      split
      · next tail ht =>
        cases cs with
        | nil =>
          rw [List.nil_append] at ht
          subst ht
          cases hr
        | cons c cs =>
          cases ht
          exact absurd rfl (hn cs)
      · rfl

theorem readSign_used (cs : List Char) :
    ∃ front, cs = front ++ (Binary64.readSign cs).2 ∧ ∀ c ∈ front, isNumeralChar c = true := by
  unfold Binary64.readSign
  split
  · exact ⟨['-'], rfl, List.forall_mem_singleton.mpr rfl⟩
  · exact ⟨['+'], rfl, List.forall_mem_singleton.mpr rfl⟩
  · exact ⟨[], rfl, by simp⟩

theorem readSign_append {cs : List Char} (h : cs ≠ []) (rest : List Char) :
    Binary64.readSign (cs ++ rest) =
      ((Binary64.readSign cs).1, (Binary64.readSign cs).2 ++ rest) := by
  obtain ⟨c, cs, rfl⟩ := List.exists_cons_of_ne_nil h
  by_cases hm : c = '-'
  · subst hm
    rfl
  · by_cases hp : c = '+'
    · subst hp
      rfl
    · simp [Binary64.readSign, hm, hp]

theorem readExponent_cons (c : Char) (cs : List Char) :
    readExponent (c :: cs) =
      if c = 'e' ∨ c = 'E' then
        (readDigits (Binary64.readSign cs).2).map fun (digits, rest) =>
          (some (Binary64.signed (Binary64.readSign cs).1 (Text.ofDigits digits)), rest)
      else some (none, c :: cs) := by
  cases cs with
  | nil => rfl
  | cons d cs =>
    by_cases hm : d = '-'
    · subst hm
      rfl
    · by_cases hp : d = '+'
      · subst hp
        rfl
      · simp [readExponent, Binary64.readSign, hm, hp]

theorem readsNumeral_readExponent : ReadsNumeral readExponent where
  used {cs left exponent} h := by
    cases cs with
    | nil =>
      cases h
      exact ⟨[], rfl, by simp⟩
    | cons c cs =>
      rw [readExponent_cons] at h
      split at h
      · next hc =>
        obtain ⟨⟨digits, _⟩, hd, he⟩ := Option.map_eq_some_iff.mp h
        cases he
        have hc : isNumeralChar c = true := by rcases hc with rfl | rfl <;> rfl
        obtain ⟨sign, hs, hn⟩ := readSign_used cs
        obtain ⟨front, hf, hm⟩ := readsNumeral_readDigits.used hd
        refine ⟨c :: sign ++ front, ?_, ?_⟩
        · rw [List.cons_append, List.cons_append, List.append_assoc, ← hf, ← hs]
        · simp only [List.mem_append, List.mem_cons]
          grind
      · cases h
        exact ⟨[], rfl, by simp⟩
  before {cs left rest exponent} h hr := by
    cases cs with
    | nil =>
      cases h
      cases rest with
      | nil => rfl
      | cons c rest =>
        have hc : ¬ (c = 'e' ∨ c = 'E') := by rintro (rfl | rfl) <;> cases hr
        rw [List.nil_append, readExponent_cons, if_neg hc]
    | cons c cs =>
      rw [readExponent_cons] at h
      rw [List.cons_append, readExponent_cons]
      split at h
      · next hc =>
        obtain ⟨⟨digits, _⟩, hd, he⟩ := Option.map_eq_some_iff.mp h
        cases he
        have hn : cs ≠ [] := by
          rintro rfl
          cases hd
        rw [if_pos hc, readSign_append hn, readsNumeral_readDigits.before hd hr, Option.map_some]
      · next hc =>
        cases h
        rw [if_neg hc, List.cons_append]

/-- A minus sign in front and what follows it. -/
def readMinus (cs : List Char) : Bool × List Char :=
  match cs with
  | '-' :: rest => (true, rest)
  | _ => (false, cs)

theorem readNumber_eq (cs : List Char) :
    readNumber cs = do
      let (whole, rest) ← readWhole (readMinus cs).2
      let (fraction, rest) ← readFraction rest
      let (exponent, rest) ← readExponent rest
      let number ← Numeral.toNumber? ⟨(readMinus cs).1, whole, fraction, exponent⟩
      return (number, rest) := by
  rfl

theorem readNumber_eq_some_iff {cs left : List Char} {n : Number} :
    readNumber cs = some (n, left) ↔
      ∃ whole afterWhole fraction afterFraction exponent,
        readWhole (readMinus cs).2 = some (whole, afterWhole) ∧
        readFraction afterWhole = some (fraction, afterFraction) ∧
        readExponent afterFraction = some (exponent, left) ∧
        Numeral.toNumber? ⟨(readMinus cs).1, whole, fraction, exponent⟩ = some n := by
  rw [readNumber_eq]
  simp only [Option.bind_eq_bind, Option.bind_eq_some_iff, Prod.exists, Option.pure_def,
    Option.some.injEq, Prod.mk.injEq]
  constructor
  · rintro ⟨whole, l, hw, fraction, m, hf, exponent, _, he, _, hn, rfl, rfl⟩
    exact ⟨whole, l, fraction, m, exponent, hw, hf, he, hn⟩
  · rintro ⟨whole, l, fraction, m, exponent, hw, hf, he, hn⟩
    exact ⟨whole, l, hw, fraction, m, hf, exponent, left, he, n, hn, rfl, rfl⟩

theorem readsNumeral_readNumber : ReadsNumeral readNumber where
  used {cs left n} h := by
    obtain ⟨whole, l, fraction, m, exponent, hw, hf, he, -⟩ := readNumber_eq_some_iff.mp h
    obtain ⟨w, hw, hcw⟩ := readsNumeral_readWhole.used hw
    obtain ⟨f, rfl, hcf⟩ := readsNumeral_readFraction.used hf
    obtain ⟨e, rfl, hce⟩ := readsNumeral_readExponent.used he
    have hs : ∃ sign, cs = sign ++ (readMinus cs).2 ∧ ∀ c ∈ sign, isNumeralChar c = true := by
      unfold readMinus
      split
      · exact ⟨['-'], rfl, List.forall_mem_singleton.mpr rfl⟩
      · exact ⟨[], rfl, by simp⟩
    obtain ⟨sign, hs, hcs⟩ := hs
    refine ⟨sign ++ w ++ f ++ e, ?_, ?_⟩
    · rw [hs, hw]
      simp only [List.append_assoc]
    · simp only [List.mem_append]
      grind
  before {cs left rest n} h hr := by
    obtain ⟨whole, l, fraction, m, exponent, hw, hf, he, hn⟩ := readNumber_eq_some_iff.mp h
    have hs : readMinus (cs ++ rest) = ((readMinus cs).1, (readMinus cs).2 ++ rest) := by
      cases cs with
      | nil => cases hw
      | cons c cs => by_cases hc : c = '-' <;> simp [readMinus, hc]
    rw [readNumber_eq_some_iff, hs]
    exact ⟨whole, l ++ rest, fraction, m ++ rest, exponent, readsNumeral_readWhole.before hw hr,
      readsNumeral_readFraction.before hf hr, readsNumeral_readExponent.before he hr, hn⟩

theorem isNumeralChar_of_mem_toDigits {n : Nat} {c : Char} (h : c ∈ Nat.toDigits 10 n) :
    isNumeralChar c = true :=
  isNumeralChar_of_isDigit (Nat.isDigit_of_mem_toDigits (by decide) (by decide) h)

namespace Scientific

variable {s : Scientific}

theorem isNumeralChar_of_mem_plainChars (h : ∀ c ∈ s.digits, isNumeralChar c = true) :
    ∀ c ∈ s.plainChars, isNumeralChar c = true := by
  have hzeros (n : Nat) : ∀ c ∈ List.replicate n '0', isNumeralChar c = true := by
    intro c hc
    obtain rfl := List.eq_of_mem_replicate hc
    rfl
  unfold plainChars
  split
  · simp only [List.cons_append, List.forall_mem_cons, List.forall_mem_append]
    exact ⟨rfl, rfl, hzeros _, h⟩
  · simp only [List.forall_mem_cons, List.forall_mem_append]
    refine ⟨⟨fun c hc => h c (List.mem_of_mem_take hc), hzeros _⟩, rfl, ?_⟩
    split
    · exact List.forall_mem_singleton.mpr rfl
    · exact fun c hc => h c (List.mem_of_mem_drop hc)

theorem isNumeralChar_of_mem_exponentChars (h : ∀ c ∈ s.digits, isNumeralChar c = true) :
    ∀ c ∈ s.exponentChars, isNumeralChar c = true := by
  unfold exponentChars
  simp only [List.forall_mem_cons, List.forall_mem_append]
  refine ⟨⟨⟨fun c hc => h c (List.mem_of_mem_take hc), ?_⟩, rfl, ?_, List.forall_mem_nil _⟩, ?_⟩
  · split
    · exact List.forall_mem_nil _
    · exact List.forall_mem_cons.mpr ⟨rfl, fun c hc => h c (List.mem_of_mem_drop hc)⟩
  · split <;> rfl
  · exact fun c hc => isNumeralChar_of_mem_toDigits hc

theorem chars_ne_nil (s : Scientific) : s.chars ≠ [] := by
  unfold chars plainChars exponentChars
  split
  · split <;> simp
  · simp

theorem isNumeralChar_of_mem_chars (d : Decimal) :
    ∀ c ∈ (ofDecimal d).chars, isNumeralChar c = true := by
  have hd : ∀ c ∈ (ofDecimal d).digits, isNumeralChar c = true := by
    intro c hc
    have hc := (List.dropWhile_sublist _).subset (List.mem_reverse.mp hc)
    exact isNumeralChar_of_mem_toDigits (List.mem_reverse.mp hc)
  unfold chars
  split
  · exact isNumeralChar_of_mem_plainChars hd
  · exact isNumeralChar_of_mem_exponentChars hd

end Scientific

namespace Number

/-- Digits, with a minus sign in front if the number is negative. -/
theorem toList_toString_int (n : Int) :
    (toString n).toList = (if n < 0 then ['-'] else []) ++ Nat.toDigits 10 n.natAbs := by
  cases n with
  | ofNat n => simp [Int.toString_eq_repr, Int.repr, Nat.repr]
  | negSucc n => simp [Int.toString_eq_repr, Int.repr, Nat.repr, Int.negSucc_lt_zero]

theorem isNumeralChar_of_mem_chars (n : Number) : ∀ c ∈ n.chars, isNumeralChar c = true := by
  have hminus (p : Prop) [Decidable p] : ∀ c ∈ if p then ['-'] else [], isNumeralChar c = true := by
    split
    · exact List.forall_mem_singleton.mpr rfl
    · exact List.forall_mem_nil _
  cases n with
  | int n =>
    rw [Number.chars, toList_toString_int]
    exact List.forall_mem_append.mpr ⟨hminus _, fun c hc => isNumeralChar_of_mem_toDigits hc⟩
  | float negative m =>
    rw [Number.chars]
    refine List.forall_mem_append.mpr ⟨hminus _, ?_⟩
    split
    · exact List.all_eq_true.mp rfl
    · exact Scientific.isNumeralChar_of_mem_chars _

theorem chars_ne_nil (n : Number) : n.chars ≠ [] := by
  cases n with
  | int n =>
    rw [Number.chars, toList_toString_int]
    exact List.append_ne_nil_of_right_ne_nil _ Nat.toDigits_ne_nil
  | float negative m =>
    rw [Number.chars]
    refine List.append_ne_nil_of_right_ne_nil _ ?_
    split
    · exact List.cons_ne_nil _ _
    · exact Scientific.chars_ne_nil _

/-- The text of a number is read as that number. -/
def ReadsBack (n : Number) : Prop :=
  readNumber n.chars = some (n, [])

instance (n : Number) : Decidable n.ReadsBack :=
  inferInstanceAs (Decidable (_ = _))

variable {n : Number}

theorem ReadsBack.readNumber_append (h : n.ReadsBack) {rest : List Char} (hr : EndsNumeral rest) :
    readNumber (n.chars ++ rest) = some (n, rest) :=
  readsNumeral_readNumber.before h hr

end Number

end Toolflow.Json
