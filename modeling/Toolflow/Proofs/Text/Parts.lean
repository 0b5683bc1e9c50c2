import Mathlib.Algebra.Group.Nat.Defs
import Mathlib.Data.List.TakeWhile
import Toolflow.Text.Blank
import Toolflow.Text.Count
import Toolflow.Text.Fields

/-!
Texts put together and taken apart again: blanks around a text are trimmed off (`trim_surrounded`),
the segments of a dotted path are found (`segments_dotted`), and the decimal digits of a count are
read as that count (`readCount?_toDigits`). Digits of a fixed width mean the number that they were
made from (`ofDigits_padded`).
-/

namespace Toolflow.Text

theorem isBlank_of_visible {c : Char} (h : 0x20 < c.toNat ∧ c.toNat < 0x7f) :
    isBlank c = false := by
  simp only [isBlank, CharSet.contains, blankChars, List.any_cons, List.any_nil, Bool.or_false,
    Bool.or_eq_false_iff, decide_eq_false_iff_not]
  omega

theorem isBlank_of_isDigit {c : Char} (h : c.isDigit = true) : isBlank c = false := by
  have hd : 48 ≤ c.toNat ∧ c.toNat ≤ 57 := Char.isDigit_iff_toNat.mp h
  apply isBlank_of_visible
  omega

/-- A text that neither begins nor ends with a blank, and is not empty. -/
structure Trimmed (cs : List Char) : Prop where
  head : ∃ c tail, cs = c :: tail ∧ isBlank c = false
  last : ∃ init c, cs = init ++ [c] ∧ isBlank c = false

variable {cs : List Char}

theorem Trimmed.ne_nil (h : Trimmed cs) : cs ≠ [] := by
  obtain ⟨c, tail, rfl, -⟩ := h.head
  exact List.cons_ne_nil c tail

theorem trimEnd_append (h : Trimmed cs) (before : List Char) {blanks : List Char}
    (hb : ∀ c ∈ blanks, isBlank c = true) : trimEnd (before ++ cs ++ blanks) = before ++ cs := by
  obtain ⟨init, c, rfl, hc⟩ := h.last
  have hr : (before ++ (init ++ [c]) ++ blanks).reverse =
      blanks.reverse ++ c :: (before ++ init).reverse := by simp
  have hd : (blanks.reverse ++ c :: (before ++ init).reverse).dropWhile isBlank =
      c :: (before ++ init).reverse := by
    rw [List.dropWhile_append_of_pos fun c hm => hb c (List.mem_reverse.mp hm),
      List.dropWhile_cons, hc, if_neg Bool.false_ne_true]
  rw [trimEnd, hr, hd]
  simp

theorem trimEnd_of_blanks (h : ∀ c ∈ cs, isBlank c = true) : trimEnd cs = [] := by
  rw [trimEnd, List.reverse_eq_nil_iff, List.dropWhile_eq_nil_iff]
  exact fun c hc => h c (List.mem_reverse.mp hc)

theorem trim_surrounded (h : Trimmed cs) {before after : List Char}
    (hb : ∀ c ∈ before, isBlank c = true)
    (ha : ∀ c ∈ after, isBlank c = true) : trim (before ++ cs ++ after) = cs := by
  have hs : trimStart (before ++ cs ++ after) = cs ++ after := by
    obtain ⟨c, tail, rfl, hc⟩ := h.head
    rw [trimStart, List.append_assoc, List.dropWhile_append_of_pos hb, List.cons_append,
      List.dropWhile_cons, hc, if_neg Bool.false_ne_true]
  rw [trim, hs]
  exact trimEnd_append h [] ha

theorem trim_of_not_blank (h : ∀ c ∈ cs, isBlank c = false) : trim cs = cs := by
  have hd {l : List Char} (h : ∀ c ∈ l, isBlank c = false) : l.dropWhile isBlank = l := by
    cases l with
    | nil => rfl
    | cons c l => rw [List.dropWhile_cons, h c List.mem_cons_self, if_neg Bool.false_ne_true]
  rw [trim, trimStart, hd h, trimEnd, hd fun c hc => h c (List.mem_reverse.mp hc),
    List.reverse_reverse]

theorem trimEnd_decomposition (cs : List Char) :
    ∃ blanks, cs = trimEnd cs ++ blanks ∧ ∀ c ∈ blanks, isBlank c = true := by
  refine ⟨(cs.reverse.takeWhile isBlank).reverse, ?_, ?_⟩
  · rw [trimEnd, ← List.reverse_append, List.takeWhile_append_dropWhile, List.reverse_reverse]
  · intro c hc
    exact List.mem_takeWhile_imp (List.mem_reverse.mp hc)

theorem trim_decomposition (cs : List Char) :
    ∃ before after, cs = before ++ trim cs ++ after ∧ (∀ c ∈ before, isBlank c = true) ∧
      ∀ c ∈ after, isBlank c = true := by
  obtain ⟨after, he, ha⟩ := trimEnd_decomposition (trimStart cs)
  refine ⟨cs.takeWhile isBlank, after, ?_, fun c hc => List.mem_takeWhile_imp hc, ha⟩
  rw [trim, List.append_assoc, ← he, trimStart, List.takeWhile_append_dropWhile]

theorem mem_trim {c : Char} (h : c ∈ cs) (hc : isBlank c = false) : c ∈ trim cs := by
  obtain ⟨before, after, hcs, hbefore, hafter⟩ := trim_decomposition cs
  rw [hcs, List.mem_append, List.mem_append] at h
  rcases h with (h | h) | h
  · rw [hbefore c h] at hc
    cases hc
  · exact h
  · rw [hafter c h] at hc
    cases hc

theorem isBlank_of_dropWhile {c : Char} {tail : List Char} (h : cs.dropWhile isBlank = c :: tail) :
    isBlank c = false := by
  have hc := List.head?_dropWhile_not isBlank cs
  rwa [h] at hc

theorem trimmed_trim (h : trim cs ≠ []) : Trimmed (trim cs) := by
  constructor
  · obtain ⟨c, tail, hc⟩ := List.exists_cons_of_ne_nil h
    obtain ⟨blanks, he, -⟩ := trimEnd_decomposition (trimStart cs)
    have hs : trimStart cs = c :: (tail ++ blanks) := by rw [he, ← trim, hc, List.cons_append]
    exact ⟨c, tail, hc, isBlank_of_dropWhile hs⟩
  · have hn : (trimStart cs).reverse.dropWhile isBlank ≠ [] := fun hn =>
      h (by rw [trim, trimEnd, hn, List.reverse_nil])
    obtain ⟨c, tail, hc⟩ := List.exists_cons_of_ne_nil hn
    exact ⟨tail.reverse, c, by rw [trim, trimEnd, hc, List.reverse_cons], isBlank_of_dropWhile hc⟩

theorem trim_trim (cs : List Char) : trim (trim cs) = trim cs := by
  by_cases h : trim cs = []
  · rw [h]
    rfl
  · have ht := trim_surrounded (trimmed_trim h) (List.forall_mem_nil _) (List.forall_mem_nil _)
    rwa [List.nil_append, List.append_nil] at ht

theorem fields_append {sep : Char} {f g : List Char} {gs : List (List Char)} (hf : sep ∉ f)
    (hc : fields sep cs = g :: gs) : fields sep (f ++ cs) = (f ++ g) :: gs := by
  induction f with
  | nil => exact hc
  | cons c f ih =>
    have hne : c ≠ sep := fun h => hf (h ▸ List.mem_cons_self)
    have ih := ih fun h => hf (List.mem_cons_of_mem c h)
    rw [List.cons_append, fields, if_neg hne, ih]
    rfl

theorem notMem_of_mem_fields {sep : Char} {cs f : List Char} (h : f ∈ fields sep cs) : sep ∉ f := by
  induction cs generalizing f with
  | nil =>
    obtain rfl := List.mem_singleton.mp h
    exact List.not_mem_nil
  | cons c cs ih =>
    rw [fields] at h
    split at h
    · obtain rfl | h := List.mem_cons.mp h
      · exact List.not_mem_nil
      · exact ih h
    · next hc =>
      obtain ⟨g, gs, hg⟩ := List.exists_cons_of_ne_nil (fields_ne_nil sep cs)
      rw [hg] at h ih
      obtain rfl | h := List.mem_cons.mp h
      · exact List.not_mem_cons_of_ne_of_not_mem (Ne.symm hc) (ih List.mem_cons_self)
      · exact ih (List.mem_cons_of_mem g h)

theorem fields_join {sep : Char} {fs : List (List Char)} (hn : fs ≠ []) (h : ∀ f ∈ fs, sep ∉ f) :
    fields sep (join sep fs) = fs := by
  induction fs with
  | nil => exact absurd rfl hn
  | cons f fs ih =>
    obtain ⟨hf, hfs⟩ := List.forall_mem_cons.mp h
    have hnil : fields sep [] = [[]] := rfl
    cases fs with
    | nil =>
      have hs := fields_append hf hnil
      rwa [List.append_nil] at hs
    | cons g gs =>
      have ih := ih (List.cons_ne_nil g gs) hfs
      have hs : fields sep (sep :: join sep (g :: gs)) = [] :: g :: gs := by
        rw [fields, if_pos rfl, ih]
      rw [join, fields_append hf hs, List.append_nil]

/-- A path with a dot in front of every segment. -/
def dotted (path : List String) : List Char :=
  path.flatMap fun segment => '.' :: segment.toList

theorem dot_cons_intercalate {path : List String} (hn : path ≠ []) :
    '.' :: (".".intercalate path).toList = dotted path := by
  induction path with
  | nil => exact absurd rfl hn
  | cons segment path ih =>
    cases path with
    | nil => simp [dotted]
    | cons next path =>
      rw [dotted, List.flatMap_cons, ← dotted, ← ih (List.cons_ne_nil next path)]
      simp [List.intercalate]

theorem fields_dotted {path : List String} (h : ∀ segment ∈ path, '.' ∉ segment.toList) :
    fields '.' (dotted path) = [] :: path.map String.toList := by
  induction path with
  | nil => rfl
  | cons segment path ih =>
    obtain ⟨hs, hp⟩ := List.forall_mem_cons.mp h
    have hf := fields_append hs (ih hp)
    rw [dotted, List.flatMap_cons, List.cons_append, fields, if_pos rfl]
    rw [dotted] at hf
    rw [hf, List.append_nil, List.map_cons]

theorem filter_map_toList {path : List String} (h : ∀ segment ∈ path, segment ≠ "") :
    (path.map String.toList).filter (· ≠ []) = path.map String.toList := by
  rw [List.filter_eq_self]
  intro f hf
  obtain ⟨segment, hs, rfl⟩ := List.mem_map.mp hf
  simpa using h segment hs

theorem segments_dotted {path : List String} (h : ∀ segment ∈ path, '.' ∉ segment.toList)
    (hn : ∀ segment ∈ path, segment ≠ "") : segments (dotted path) = path := by
  rw [segments, fields_dotted h, List.filter_cons_of_neg (by simp),
    filter_map_toList hn, List.map_map]
  simp

theorem isDigit_of_mem_toDigits {n : Nat} {c : Char} (h : c ∈ Nat.toDigits 10 n) :
    c.isDigit = true :=
  Nat.isDigit_of_mem_toDigits (by decide) (by decide) h

@[simp]
theorem ofDigits_toDigits (n : Nat) : ofDigits (Nat.toDigits 10 n) = n := by
  have hf : ofDigits (Nat.toDigits 10 n) = Nat.ofDigitChars 10 (Nat.toDigits 10 n) 0 := by
    simp only [ofDigits, Nat.ofDigitChars, digitValue, Nat.mul_comm]
  rw [hf, Nat.ofDigitChars_ten_toDigits]

theorem le_ofDigitChars (init : Nat) (cs : List Char) : init ≤ Nat.ofDigitChars 10 cs init := by
  rw [Nat.ofDigitChars_eq_ofDigitChars_zero]
  have hp : 1 * init ≤ 10 ^ cs.length * init :=
    Nat.mul_le_mul_right init (Nat.one_le_pow _ _ (by decide))
  omega

theorem extendCount_of_isDigit {n : Nat} (hd : ∀ c ∈ cs, c.isDigit = true)
    (hl : Nat.ofDigitChars 10 cs n < UInt64.size) :
    extendCount n cs = .ok (Nat.ofDigitChars 10 cs n) := by
  induction cs generalizing n with
  | nil => rfl
  | cons c cs ih =>
    obtain ⟨hc, hd⟩ := List.forall_mem_cons.mp hd
    have hn : 10 * n + (c.toNat - '0'.toNat) = n * 10 + digitValue c := by
      rw [digitValue, Nat.mul_comm]
    rw [Nat.ofDigitChars_cons, hn] at hl ⊢
    have hb : n * 10 + digitValue c < UInt64.size := Nat.lt_of_le_of_lt (le_ofDigitChars _ cs) hl
    rw [extendCount, hc, Bool.not_true, if_neg Bool.false_ne_true, if_pos hb]
    exact ih hd hl

theorem readCount?_toDigits {n : Nat} (h : n < UInt64.size) :
    readCount? (Nat.toDigits 10 n) = some n := by
  have hd : ∀ c ∈ Nat.toDigits 10 n, c.isDigit = true := fun c => isDigit_of_mem_toDigits
  have he := extendCount_of_isDigit hd (by rwa [Nat.ofDigitChars_ten_toDigits])
  rw [Nat.ofDigitChars_ten_toDigits] at he
  obtain ⟨c, cs, hcs⟩ := List.exists_cons_of_ne_nil (Nat.toDigits_ne_nil (n := n) (b := 10))
  rw [hcs] at hd he ⊢
  have hp : c ≠ '+' := by
    rintro rfl
    cases hd '+' List.mem_cons_self
  have hr : readCount (c :: cs) = extendCount 0 (c :: cs) := by simp [readCount, hp]
  rw [readCount?, hr, he]
  rfl

theorem extendCount_lt {n m : Nat} (h : extendCount n cs = .ok m) (hn : n < UInt64.size) :
    m < UInt64.size := by
  induction cs generalizing n with
  | nil =>
    cases h
    exact hn
  | cons c cs ih =>
    rw [extendCount] at h
    split at h
    · cases h
    · split at h
      · next hl => exact ih h hl
      · cases h

theorem readCount?_lt {n : Nat} (h : readCount? cs = some n) : n < UInt64.size := by
  have hz : 0 < UInt64.size := by decide
  rw [readCount?] at h
  cases hr : readCount cs with
  | error fault =>
    rw [hr] at h
    cases h
  | ok m =>
    rw [hr] at h
    obtain rfl := Option.some.inj h
    unfold readCount at hr
    split at hr
    · cases hr
    · cases hr
    · exact extendCount_lt hr hz
    · exact extendCount_lt hr hz

/-- The decimal digits of a number, after as many zeros as it takes to have so many. -/
def padded (width n : Nat) : List Char :=
  (Nat.toDigits 10 n).leftpad width '0'

section Padded

variable {width n : Nat}

theorem isDigit_of_mem_padded {c : Char} (h : c ∈ padded width n) : c.isDigit = true := by
  rw [padded, List.leftpad, List.mem_append] at h
  rcases h with h | h
  · rw [List.eq_of_mem_replicate h]
    rfl
  · exact isDigit_of_mem_toDigits h

theorem length_padded (hw : 0 < width) (h : n < 10 ^ width) : (padded width n).length = width := by
  have hl := (Nat.length_toDigits_le_iff (b := 10) (by decide) hw).mpr h
  rw [padded, List.length_leftpad, Nat.max_eq_left hl]

@[simp]
theorem ofDigits_padded (width n : Nat) : ofDigits (padded width n) = n := by
  have hz (k : Nat) (cs : List Char) : ofDigits (List.replicate k '0' ++ cs) = ofDigits cs := by
    induction k with
    | zero => rfl
    | succ k ih => exact ih
  rw [padded, List.leftpad, hz, ofDigits_toDigits]

theorem exists_padded_eq_cons (hw : 0 < width) (h : n < 10 ^ width) :
    ∃ c cs, padded width n = c :: cs ∧ c.isDigit = true := by
  have hl := length_padded hw h
  obtain ⟨c, cs, hc⟩ := List.exists_cons_of_length_pos (hl ▸ hw)
  exact ⟨c, cs, hc, isDigit_of_mem_padded (hc ▸ List.mem_cons_self)⟩

theorem trimStart_padded (hw : 0 < width) (h : n < 10 ^ width) (rest : List Char) :
    trimStart (padded width n ++ rest) = padded width n ++ rest := by
  obtain ⟨c, cs, hc, hd⟩ := exists_padded_eq_cons hw h
  rw [hc, List.cons_append, trimStart, List.dropWhile_cons, isBlank_of_isDigit hd,
    if_neg Bool.false_ne_true]

end Padded

end Toolflow.Text
