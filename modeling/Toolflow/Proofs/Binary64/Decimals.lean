import Toolflow.Binary64.Reader
import Toolflow.Proofs.Binary64.Rounding
import Toolflow.Proofs.Json.Numerals
import Toolflow.Proofs.Text.Parts

/-!
The decimal text of an integer as a number of the 64-bit format: it reads as the value next to the
integer (`read?_toString`).
-/

namespace Toolflow

namespace Text

theorem toLower_of_isDigit {c : Char} (h : c.isDigit = true) : c.toLower = c := by
  have hd : 48 ≤ c.toNat ∧ c.toNat ≤ 57 := Char.isDigit_iff_toNat.mp h
  have hn : ¬ (c.val ≥ 'A'.val ∧ c.val ≤ 'Z'.val) := by
    rintro ⟨hl, -⟩
    have hl : 65 ≤ c.toNat := UInt32.le_iff_toNat_le.mp hl
    omega
  exact dif_neg hn

theorem map_toLower_of_forall {cs : List Char} (h : ∀ c ∈ cs, c.toLower = c) :
    cs.map Char.toLower = cs :=
  (List.map_congr_left h).trans (List.map_id cs)

theorem map_toLower_toDigits (n : Nat) : (Nat.toDigits 10 n).map Char.toLower = Nat.toDigits 10 n :=
  map_toLower_of_forall fun _ hc => toLower_of_isDigit (isDigit_of_mem_toDigits hc)

end Text

theorem Magnitude.ofDecimal?_of_integer {n : Nat} (h : n ≤ 0x10000000000000000) :
    ofDecimal? n 0 = ofNat? n := by
  have hl : (Nat.toDigits 10 n).length ≤ 20 :=
    (Nat.length_toDigits_le_iff (by decide) (by decide)).mpr (Nat.lt_of_le_of_lt h (by decide))
  rw [ofDecimal?, ofNat?]
  split
  · next hz =>
    obtain rfl : n = 0 := by omega
    rw [Nat.zero_mul]
    exact (nearest?_units zero).symm
  · rw [if_neg (by omega), if_pos (Int.le_refl 0), Int.toNat_zero, Nat.pow_eq,
      Nat.pow_zero, Nat.mul_one]

namespace Binary64

open Text

variable {n : Nat}

theorem readDecimal?_toDigits (negative : Bool) (h : n ≤ 0x10000000000000000) :
    readDecimal? negative (Nat.toDigits 10 n) =
      some (ofMagnitude? negative (Magnitude.ofNat? n)) := by
  have hspan : (Nat.toDigits 10 n).span Char.isDigit = (Nat.toDigits 10 n, []) := by
    have hd : ∀ c ∈ Nat.toDigits 10 n, c.isDigit = true := fun c => isDigit_of_mem_toDigits
    rw [List.span_eq_takeWhile_dropWhile, List.takeWhile_eq_self_iff.mpr hd,
      List.dropWhile_eq_nil_iff.mpr hd]
  simp only [readDecimal?, hspan, List.append_nil, Nat.toDigits_ne_nil, if_false, readExponent?,
    Option.map_some, ofDigits_toDigits, List.length_nil]
  rw [← Magnitude.ofDecimal?_of_integer h]
  rfl

theorem readWord?_toDigits (negative : Bool) (n : Nat) :
    readWord? negative (Nat.toDigits 10 n) = none := by
  have hword {word : String} {c : Char} (hc : c ∈ word.toList) (hn : c.isDigit = false) :
      String.ofList (Nat.toDigits 10 n) ≠ word := by
    rintro rfl
    rw [String.toList_ofList] at hc
    rw [isDigit_of_mem_toDigits hc] at hn
    cases hn
  have hinf : String.ofList (Nat.toDigits 10 n) ≠ "inf" := hword (c := 'i') (by decide) rfl
  have hinfinity : String.ofList (Nat.toDigits 10 n) ≠ "infinity" :=
    hword (c := 'i') (by decide) rfl
  have hnan : String.ofList (Nat.toDigits 10 n) ≠ "nan" := hword (c := 'n') (by decide) rfl
  simp only [readWord?, map_toLower_toDigits, hinf, hinfinity, hnan, or_self, if_false]

theorem readSign_toDigits (n : Nat) :
    readSign (Nat.toDigits 10 n) = (false, Nat.toDigits 10 n) := by
  have hm : '-' ∉ Nat.toDigits 10 n := fun h => Bool.false_ne_true (isDigit_of_mem_toDigits h)
  have hp : '+' ∉ Nat.toDigits 10 n := fun h => Bool.false_ne_true (isDigit_of_mem_toDigits h)
  unfold readSign
  split
  · next he => exact absurd (he ▸ List.mem_cons_self) hm
  · next he => exact absurd (he ▸ List.mem_cons_self) hp
  · rfl

theorem read?_toString {m : Int} (h : m.natAbs ≤ 0x10000000000000000) :
    read? (toString m).toList = some (ofInt m) := by
  have hread (negative : Bool) : (readWord? negative (Nat.toDigits 10 m.natAbs)).or
      (readDecimal? negative (Nat.toDigits 10 m.natAbs)) =
        some (ofMagnitude? negative (Magnitude.ofNat? m.natAbs)) := by
    rw [readWord?_toDigits, Option.none_or, readDecimal?_toDigits negative h]
  rw [Json.Number.toList_toString_int, ofInt]
  by_cases hm : m < 0
  · rw [if_pos hm, decide_eq_true hm]
    exact hread true
  · rw [if_neg hm, decide_eq_false hm, List.nil_append, read?, readSign_toDigits]
    exact hread false

end Binary64

end Toolflow
