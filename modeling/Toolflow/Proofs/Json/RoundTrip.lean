import Toolflow.Proofs.Json.Measures
import Toolflow.Proofs.Json.Numerals
import Toolflow.Text.Fields

/-!
The JSON text of a value is read as that value. Strings are read back character by character
(`readQuoted_escapedChars`), a series item by item (`readItems_join`), and a value by induction.
Main statement: `read?_chars`.
-/

namespace Toolflow.Json

open Toolflow.Text

theorem unescape?_shortEscape? {c letter : Char} (h : shortEscape? c = some letter) :
    letter ≠ 'u' ∧ unescape? letter = some c := by
  unfold shortEscape? at h
  split at h <;> cases h <;> decide

theorem hexUnit?_digits :
    ∀ n < 0x20, hexUnit? '0' '0' (Nat.digitChar (n / 16)) (Nat.digitChar (n % 16)) = some n := by
  decide

theorem readQuoted_escapedChars (c : Char) (rest : List Char) :
    readQuoted (escapedChars c ++ rest) = consChar c (readQuoted rest) := by
  unfold escapedChars
  split
  · next letter hl =>
    obtain ⟨hu, he⟩ := unescape?_shortEscape? hl
    simp [readQuoted, hu, he]
  · next hn =>
    split
    · next hc =>
      have hunit := hexUnit?_digits c.toNat hc
      have hlow : c.toNat < 0xD800 ∨ 0xE000 ≤ c.toNat := .inl (by omega)
      simp only [List.cons_append, List.nil_append, readQuoted, hunit, if_pos hlow,
        Char.ofNat_toNat]
    · next hc =>
      have hq : c ≠ '"' := by rintro rfl; cases hn
      have hb : c ≠ '\\' := by rintro rfl; cases hn
      simp [readQuoted, hb, hc]

theorem readString_stringChars (s : String) (rest : List Char) :
    readString (stringChars s ++ rest) = some (s, rest) := by
  have hq (cs : List Char) : readQuoted (cs.flatMap escapedChars ++ '"' :: rest) =
      some (cs, rest) := by
    induction cs with
    | nil => rfl
    | cons c cs ih =>
      rw [List.flatMap_cons, List.append_assoc, readQuoted_escapedChars, ih, consChar,
        Option.map_some]
  have hs : stringChars s ++ rest = '"' :: (s.toList.flatMap escapedChars ++ '"' :: rest) := by
    simp [stringChars]
  simp only [hs, readString, hq, Option.map_some, String.ofList_toList]

theorem skipSpaces_cons {c : Char} (h : isSpace c = false) (cs : List Char) :
    skipSpaces (c :: cs) = c :: cs := by
  rw [skipSpaces, List.dropWhile_cons, h, if_neg Bool.false_ne_true]

section Series

variable {α : Type} {close : Char} {readItem : Reader α} {text : α → List Char}

structure ClosesSeries (close : Char) : Prop where
  notSpace : isSpace close = false
  notComma : close ≠ ','
  endsNumeral : EndsNumeral [close]

theorem closesSeries_bracket : ClosesSeries ']' :=
  ⟨rfl, by decide, rfl⟩

theorem closesSeries_brace : ClosesSeries '\x7d' :=
  ⟨rfl, by decide, rfl⟩

/-- An item is read from its text in front of whatever may follow it, and its text does not begin
like the end of a series. -/
structure ReadsItem (close : Char) (readItem : Reader α) (text : α → List Char) (a : α) : Prop where
  reads : ∀ rest, EndsNumeral rest → readItem (text a ++ rest) = some (a, rest)
  opens : ∃ c cs, text a = c :: cs ∧ isSpace c = false ∧ c ≠ close

theorem readSeries_join (hc : ClosesSeries close) {items : List α}
    (hi : ∀ a ∈ items, ReadsItem close readItem text a) (hn : items ≠ []) {fuel : Nat}
    (hf : items.length ≤ fuel) (rest : List Char) :
    readSeries close readItem fuel (join ',' (items.map text) ++ close :: rest) =
      some (items, rest) := by
  induction items generalizing fuel with
  | nil => exact absurd rfl hn
  | cons a items ih =>
    obtain ⟨ha, hi⟩ := List.forall_mem_cons.mp hi
    cases fuel with
    | zero => cases hf
    | succ fuel =>
      cases items with
      | nil =>
        have hr : readItem (text a ++ close :: rest) = some (a, close :: rest) :=
          ha.reads _ hc.endsNumeral
        have hn : close ≠ ',' := hc.notComma
        simp [readSeries, join, hr, skipSpaces_cons hc.notSpace]
      | cons b items =>
        have hr : readItem (text a ++ ',' :: (join ',' ((b :: items).map text) ++ close :: rest)) =
            some (a, ',' :: (join ',' ((b :: items).map text) ++ close :: rest)) := ha.reads _ rfl
        have ih := ih hi (by simp) (Nat.le_of_succ_le_succ hf)
        have hj : join ',' ((a :: b :: items).map text) ++ close :: rest =
            text a ++ ',' :: (join ',' ((b :: items).map text) ++ close :: rest) := by simp [join]
        have hs : skipSpaces (',' :: (join ',' ((b :: items).map text) ++ close :: rest)) =
            ',' :: (join ',' ((b :: items).map text) ++ close :: rest) := skipSpaces_cons rfl _
        simp only [hj, readSeries, hr, Option.bind_eq_bind, Option.bind_some, hs, ih,
          Option.pure_def, Prod.map, id_eq]

theorem length_le_length_join {items : List α} (h : ∀ a ∈ items, text a ≠ []) :
    items.length ≤ (join ',' (items.map text)).length := by
  induction items with
  | nil => exact Nat.zero_le _
  | cons a items ih =>
    obtain ⟨ha, hi⟩ := List.forall_mem_cons.mp h
    have hl : 0 < (text a).length := List.length_pos_iff.mpr ha
    cases items with
    | nil => exact hl
    | cons b items =>
      have ih := ih hi
      simp only [List.map_cons, join, List.length_cons, List.length_append] at ih ⊢
      omega

theorem readItems_join (hc : ClosesSeries close) {items : List α}
    (hi : ∀ a ∈ items, ReadsItem close readItem text a) (rest : List Char) :
    readItems close readItem (join ',' (items.map text) ++ close :: rest) = some (items, rest) := by
  cases items with
  | nil => simp [readItems, join, skipSpaces_cons hc.notSpace]
  | cons a items =>
    obtain ⟨c, cs, ht, hs, hne⟩ := (hi a List.mem_cons_self).opens
    obtain ⟨tail, hj⟩ : ∃ tail, join ',' ((a :: items).map text) ++ close :: rest = c :: tail := by
      cases items <;> simp [join, ht]
    have hl : (a :: items).length ≤ (c :: tail).length := by
      have := length_le_length_join fun b hb => (by
        obtain ⟨d, ds, hd, -⟩ := (hi b hb).opens
        rw [hd]
        exact List.cons_ne_nil d ds : text b ≠ [])
      rw [← hj, List.length_append]
      omega
    have hr := readSeries_join hc hi (List.cons_ne_nil a items) hl rest
    rw [hj] at hr ⊢
    simp only [readItems, skipSpaces_cons hs, if_neg hne, hr]

end Series

namespace Value

def memberText (m : String × Value) : List Char :=
  stringChars m.1 ++ ':' :: m.2.chars

theorem itemChars_eq (items : List Value) : itemChars items = join ',' (items.map chars) := by
  induction items with
  | nil => rfl
  | cons v items ih =>
    cases items with
    | nil => rfl
    | cons w items => simp only [itemChars, ih, List.map_cons, join]

theorem memberChars_eq (members : Members) :
    memberChars members = join ',' (members.map memberText) := by
  induction members with
  | nil => rfl
  | cons m members ih =>
    cases members with
    | nil => rfl
    | cons n members =>
      simp only [memberChars, ih, List.map_cons, join, memberText, List.append_assoc,
        List.cons_append]

/-- What the reader asks of a value to be read back: that it nests no deeper than allowed, its
numbers read back and its members are in order. -/
structure Readable (depth : Nat) (v : Value) : Prop where
  depth_le : v.depth ≤ depth
  numbers : ∀ n ∈ v.numbers, n.ReadsBack
  ordered : v.Ordered

variable {depth : Nat} {v : Value}

theorem Readable.item {items : List Value} (h : Readable depth (.array items)) :
    ∃ d, depth = d + 1 ∧ ∀ v ∈ items, Readable d v := by
  obtain ⟨d, rfl⟩ : ∃ d, depth = d + 1 :=
    Nat.exists_eq_add_one.mpr (Nat.lt_of_lt_of_le (Nat.succ_pos _) h.depth_le)
  refine ⟨d, rfl, fun v hv => ⟨?_, ?_, ?_⟩⟩
  · exact itemsDepth_le_iff.mp (Nat.le_of_succ_le_succ h.depth_le) v hv
  · exact fun n hn => h.numbers n (mem_numbers_array hv hn)
  · exact ordered_array_iff.mp h.ordered v hv

theorem Readable.member {members : Members} (h : Readable depth (.object members)) :
    ∃ d, depth = d + 1 ∧ ∀ m ∈ members, Readable d m.2 := by
  obtain ⟨d, rfl⟩ : ∃ d, depth = d + 1 :=
    Nat.exists_eq_add_one.mpr (Nat.lt_of_lt_of_le (Nat.succ_pos _) h.depth_le)
  refine ⟨d, rfl, fun m hm => ⟨?_, ?_, ?_⟩⟩
  · exact membersDepth_le_iff.mp (Nat.le_of_succ_le_succ h.depth_le) m hm
  · exact fun n hn => h.numbers n (mem_numbers_object hm hn)
  · exact (ordered_object_iff.mp h.ordered).2 m hm

/-- The characters that texts of values begin with. -/
def opens (c : Char) : Bool :=
  isNumeralChar c || ['"', '[', '\x7b', 'n', 't', 'f'].contains c

end Value

theorem opens_of_readNumber {cs rest : List Char} {n : Number}
    (h : readNumber cs = some (n, rest)) :
    ∃ c tail, cs = c :: tail ∧ isNumeralChar c = true := by
  obtain ⟨whole, l, -, -, -, hw, -⟩ := readNumber_eq_some_iff.mp h
  obtain ⟨hn, ht, -⟩ := readDigits_eq_some_iff.mp (readWhole_eq_some_iff.mp hw).1
  cases cs with
  | nil => exact absurd ht.symm hn
  | cons c tail =>
    refine ⟨c, tail, rfl, ?_⟩
    by_cases hc : c = '-'
    · rw [hc]
      rfl
    · apply isNumeralChar_of_isDigit
      have hm : (readMinus (c :: tail)).2 = c :: tail := by simp [readMinus, hc]
      by_contra hd
      rw [hm, List.takeWhile_cons, if_neg hd] at ht
      exact hn ht.symm

theorem isSpace_of_isNumeralChar {c : Char} (h : isNumeralChar c = true) : isSpace c = false := by
  simp only [isSpace, Bool.or_eq_false_iff, beq_eq_false_iff_ne]
  refine ⟨⟨⟨?_, ?_⟩, ?_⟩, ?_⟩ <;> rintro rfl <;> cases h

theorem readValue_of_readNumber {cs rest : List Char} {n : Number} (depth : Nat)
    (h : readNumber cs = some (n, rest)) :
    readValue depth cs = some (.number n, rest) := by
  obtain ⟨c, tail, rfl, hc⟩ := opens_of_readNumber h
  have hs : skipSpaces (c :: tail) = c :: tail := skipSpaces_cons (isSpace_of_isNumeralChar hc) tail
  unfold readValue
  rw [hs]
  split
  case h_7 => rw [h, Option.map_some, Prod.map, id_eq]
  all_goals
    next he =>
      cases he
      cases hc

namespace Value

variable {depth : Nat} {v : Value} {rest : List Char}

theorem opens_chars (v : Value) : ∃ c cs, v.chars = c :: cs ∧ opens c = true := by
  cases v with
  | null => exact ⟨_, _, rfl, rfl⟩
  | bool b => cases b <;> exact ⟨_, _, rfl, rfl⟩
  | number n =>
    obtain ⟨c, cs, hn⟩ := List.exists_cons_of_ne_nil n.chars_ne_nil
    have hc : isNumeralChar c = true := n.isNumeralChar_of_mem_chars c (hn ▸ List.mem_cons_self)
    exact ⟨c, cs, hn, Bool.or_eq_true_iff.mpr (.inl hc)⟩
  | string s => exact ⟨_, _, rfl, rfl⟩
  | array items => exact ⟨_, _, rfl, rfl⟩
  | object members => exact ⟨_, _, rfl, rfl⟩

theorem not_space_of_opens {c : Char} (h : opens c = true) :
    isSpace c = false ∧ c ≠ ']' ∧ c ≠ '\x7d' := by
  rcases Bool.or_eq_true_iff.mp h with h | h
  · refine ⟨isSpace_of_isNumeralChar h, ?_, ?_⟩ <;> rintro rfl <;> cases h
  · simp only [List.contains_iff_mem, List.mem_cons, List.not_mem_nil, or_false] at h
    rcases h with rfl | rfl | rfl | rfl | rfl | rfl <;> decide

theorem readMember_memberText {m : String × Value}
    (h : readValue depth (m.2.chars ++ rest) = some (m.2, rest)) :
    readMember (readValue depth) (memberText m ++ rest) = some (m, rest) := by
  have hs : skipSpaces (memberText m ++ rest) =
      stringChars m.1 ++ (':' :: (m.2.chars ++ rest)) := by
    simp only [memberText, stringChars, List.cons_append, List.append_assoc]
    exact skipSpaces_cons rfl _
  have hc : skipSpaces (':' :: (m.2.chars ++ rest)) = ':' :: (m.2.chars ++ rest) :=
    skipSpaces_cons rfl _
  simp only [readMember, hs, readString_stringChars, Option.bind_eq_bind, Option.bind_some, hc, h,
    Option.pure_def, Prod.map, id_eq]

-- The depth left to the reader drops by one in every container, as `Readable` does.
theorem readValue_chars (h : Readable depth v) (hr : EndsNumeral rest) :
    readValue depth (v.chars ++ rest) = some (v, rest) := by
  induction v using induct generalizing depth rest with
  | null => rw [readValue]; rfl
  | bool b => cases b <;> (rw [readValue]; rfl)
  | number n =>
    exact readValue_of_readNumber depth
      ((h.numbers n (List.mem_singleton.mpr rfl)).readNumber_append hr)
  | string s =>
    have hs : skipSpaces (chars (.string s) ++ rest) = chars (.string s) ++ rest :=
      skipSpaces_cons rfl _
    have hread := readString_stringChars s rest
    rw [readValue, hs]
    simp only [chars, stringChars, List.cons_append] at hread ⊢
    rw [hread, Option.map_some, Prod.map, id_eq]
  | array items ih =>
    obtain ⟨d, rfl, hitems⟩ := h.item
    have hi : ∀ v ∈ items, ReadsItem ']' (readValue d) chars v := by
      intro v hv
      obtain ⟨c, cs, hc, ho⟩ := opens_chars v
      exact ⟨fun _ hr => ih v hv (hitems v hv) hr, c, cs, hc, (not_space_of_opens ho).1,
        (not_space_of_opens ho).2.1⟩
    have hread := readItems_join closesSeries_bracket hi rest
    have hs : skipSpaces (chars (.array items) ++ rest) = '[' ::
        (join ',' (items.map chars) ++ ']' :: rest) := by
      rw [← itemChars_eq]
      exact (skipSpaces_cons rfl _).trans (by simp)
    rw [readValue, hs]
    simp only [hread, Option.map_some, Prod.map, id_eq]
  | object members ih =>
    obtain ⟨d, rfl, hmembers⟩ := h.member
    have hi : ∀ m ∈ members, ReadsItem '\x7d' (readMember (readValue d)) memberText m := by
      intro m hm
      refine ⟨fun _ hr => readMember_memberText (ih m hm (hmembers m hm) hr), '"', _,
        rfl, rfl, by decide⟩
    have hread := readItems_join closesSeries_brace hi rest
    have hs : skipSpaces (chars (.object members) ++ rest) =
        '\x7b' :: (join ',' (members.map memberText) ++ '\x7d' :: rest) := by
      rw [← memberChars_eq]
      exact (skipSpaces_cons rfl _).trans (by simp)
    have ho : Members.ofList members = members :=
      Members.ofList_of_ascending (ordered_object_iff.mp h.ordered).1
    rw [readValue, hs]
    simp only [hread, Option.map_some, Prod.map, id_eq, Function.comp_apply, ho]

theorem read?_chars (h : Readable maxDepth v) : read? v.chars = some v := by
  have hr := readValue_chars h (show EndsNumeral [] from rfl)
  rw [List.append_nil] at hr
  rw [read?, hr]
  rfl

theorem head_of_readValue_null {cs : List Char} (h : readValue depth cs = some (.null, rest)) :
    (skipSpaces cs).head? = some 'n' := by
  unfold readValue at h
  split at h
  · next hs =>
    rw [hs]
    rfl
  · cases h
  · cases h
  · obtain ⟨_, -, he⟩ := Option.map_eq_some_iff.mp h
    cases he
  · split at h
    · cases h
    · obtain ⟨_, -, he⟩ := Option.map_eq_some_iff.mp h
      cases he
  · split at h
    · cases h
    · obtain ⟨_, -, he⟩ := Option.map_eq_some_iff.mp h
      cases he
  · obtain ⟨_, -, he⟩ := Option.map_eq_some_iff.mp h
    cases he

theorem head_chars_ne (h : v.isNull = false) : v.chars.head? ≠ some 'n' := by
  cases v with
  | null => cases h
  | bool b => cases b <;> exact nofun
  | number n =>
    intro hn
    have hc : isNumeralChar 'n' = true := n.isNumeralChar_of_mem_chars 'n' (List.mem_of_head? hn)
    cases hc
  | string s => exact nofun
  | array items => exact nofun
  | object members => exact nofun

/-- Whatever else the text of a value may be read as, it is read as null only if the value is. -/
theorem isNull_of_read?_chars {w : Value} (h : read? v.chars = some w) : w.isNull = v.isNull := by
  cases hv : v.isNull with
  | false =>
    obtain ⟨c, cs, hc, ho⟩ := v.opens_chars
    have hs : skipSpaces v.chars = v.chars := by rw [hc, skipSpaces_cons (not_space_of_opens ho).1]
    by_contra hw
    obtain rfl : w = .null := isNull_iff.mp (Bool.not_eq_false _ ▸ hw)
    rw [read?] at h
    split at h
    · next r hr =>
      split at h
      · cases h
        exact head_chars_ne hv (hs ▸ head_of_readValue_null hr)
      · cases h
    · cases h
  | true =>
    obtain rfl := isNull_iff.mp hv
    cases h
    rfl

end Value

end Toolflow.Json
