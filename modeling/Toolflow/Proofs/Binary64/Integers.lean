import Toolflow.Json.Number
import Toolflow.Proofs.Binary64.Rounding

/-!
Numbers as values of the 64-bit format. The integers of JSON are far from its limit, so every JSON
number is a finite value (`Number.isFinite_toBinary64`), and finite values compare by their places
(`compare?_of_rank`). What integers become are whole multiples of 2⁻⁵², which are near only if they
are the same (`near_ofInt_iff`), and an integer below 2⁵³ becomes none that another integer becomes
(`ofInt_inj`).
-/

namespace Toolflow

namespace Binary64

variable {m n : Int} {k : Nat} {a : Magnitude}

-- The exponent itself is never needed, and terms that show it are expensive to compare.
theorem exists_unitsPerOne : ∃ e, unitsPerOne = Nat.pow 2 e := by
  obtain ⟨k, hk⟩ : ∃ k, epsilon = Nat.pow 2 k := ⟨_, epsilon_eq⟩
  rw [← epsilon_mul_eq_unitsPerOne, hk]
  exact ⟨k + 52, (Nat.pow_add 2 k 52).symm⟩

theorem unitsPerOne_pos : 0 < unitsPerOne := by
  obtain ⟨e, he⟩ := exists_unitsPerOne
  rw [he]
  exact Nat.two_pow_pos e

theorem exists_ofInt (h : n.natAbs ≤ 0x10000000000000000) :
    ∃ a, Magnitude.nearest? (n.natAbs * unitsPerOne) 1 = some a ∧
      ofInt n = .finite (decide (n < 0)) a := by
  have hlimit := unitsPerOne_mul_lt_unitsLimit
  have hpos := unitsPerOne_pos
  have hm : n.natAbs * unitsPerOne ≤ 0x10000000000000000 * unitsPerOne := Nat.mul_le_mul_right _ h
  have hu : 2 * (n.natAbs * unitsPerOne) + 1 < unitsLimit := by omega
  obtain ⟨a, hn⟩ := Magnitude.exists_nearest? hu
  refine ⟨a, hn, ?_⟩
  rw [ofInt, Magnitude.ofNat?, hn]
  rfl

theorem isFinite_ofInt (h : n.natAbs ≤ 0x10000000000000000) : (ofInt n).isFinite = true := by
  obtain ⟨a, -, ha⟩ := exists_ofInt h
  rw [ha]
  rfl

theorem exists_rank {x : Binary64} (h : x.isFinite = true) : ∃ place, x.rank = some place := by
  cases x with
  | nan | infinite => cases h
  | finite negative m => exact ⟨_, rfl⟩

theorem compare?_of_rank {x y : Binary64} {a b : Int} (hx : x.rank = some a)
    (hy : y.rank = some b) :
    x.compare? y = some (Ord.compare a b) := by
  rw [compare?, hx, hy]

/-- Up to 2⁵³ integers are values of the format. -/
theorem units_of_le (hk : k ≤ Nat.pow 2 53) (h : Magnitude.nearest? (k * unitsPerOne) 1 = some a) :
    a.units = k * unitsPerOne := by
  obtain ⟨e, he⟩ := exists_unitsPerOne
  refine Magnitude.units_of_dvd ?_ h
  rw [he]
  exact spacing_dvd_mul hk

theorem le_units {e : Nat} (hk : Nat.pow 2 e ≤ k)
    (h : Magnitude.nearest? (k * unitsPerOne) 1 = some a) :
    Nat.pow 2 e * unitsPerOne ≤ a.units := by
  obtain ⟨d, hd⟩ := exists_unitsPerOne
  have hp : Nat.pow 2 e * unitsPerOne = Nat.pow 2 (e + d) := by
    rw [hd]
    exact (Nat.pow_add 2 e d).symm
  exact Magnitude.two_pow_le hp (Nat.mul_le_mul_right _ hk) h

theorem epsilon_dvd_units (h : Magnitude.nearest? (k * unitsPerOne) 1 = some a) :
    epsilon ∣ a.units := by
  by_cases hk : k = 0
  · have ha : a.units = k * unitsPerOne := units_of_le (hk ▸ Nat.zero_le _) h
    rw [ha, hk, Nat.zero_mul]
    exact Nat.dvd_zero epsilon
  · have hu : unitsPerOne ≤ k * unitsPerOne := Nat.le_mul_of_pos_left _ (Nat.pos_of_ne_zero hk)
    exact Nat.dvd_trans (epsilon_dvd_spacing hu) (Magnitude.spacing_dvd h)

theorem units_pos (hk : k ≠ 0) (h : Magnitude.nearest? (k * unitsPerOne) 1 = some a) :
    0 < a.units :=
  Nat.lt_of_lt_of_le (Nat.two_pow_pos _)
    (Magnitude.two_pow_log2_le (Nat.mul_ne_zero hk (Nat.ne_of_gt unitsPerOne_pos)) h)

theorem signed_neg_iff (h : Magnitude.nearest? (n.natAbs * unitsPerOne) 1 = some a) :
    signed (decide (n < 0)) a.units < 0 ↔ n < 0 := by
  by_cases hn : n < 0
  · have hp := units_pos (by omega) h
    rw [decide_eq_true hn, signed, if_pos rfl]
    omega
  · rw [decide_eq_false hn, signed, if_neg Bool.false_ne_true]
    omega

variable (hm : m.natAbs ≤ 0x10000000000000000) (hn : n.natAbs ≤ 0x10000000000000000)

include hm hn

theorem rank_ofInt_inj : (ofInt m).rank = (ofInt n).rank ↔ ofInt m = ofInt n := by
  obtain ⟨a, ha, hma⟩ := exists_ofInt hm
  obtain ⟨b, hb, hnb⟩ := exists_ofInt hn
  refine ⟨fun h => ?_, congrArg rank⟩
  rw [hma, hnb] at h ⊢
  have h : signed (decide (m < 0)) a.units = signed (decide (n < 0)) b.units := Option.some.inj h
  have hs : decide (m < 0) = decide (n < 0) := by
    rw [decide_eq_decide, ← signed_neg_iff ha, h, signed_neg_iff hb]
  have hu : a.units = b.units := by rw [← natAbs_signed (decide (m < 0)) a.units, h, natAbs_signed]
  rw [hs, Magnitude.eq_of_units_eq hu]

/-- Integers are near after rounding only if they round to the same value. -/
theorem near_ofInt_iff : (ofInt m).near (ofInt n) = true ↔ ofInt m = ofInt n := by
  obtain ⟨a, ha, hma⟩ := exists_ofInt hm
  obtain ⟨b, hb, hnb⟩ := exists_ofInt hn
  rw [← rank_ofInt_inj hm hn, hma, hnb,
    near_iff_of_dvd (epsilon_dvd_units ha) (epsilon_dvd_units hb), rank, rank, Option.some_inj]

theorem eq_of_ofInt_eq (hl : m.natAbs < Nat.pow 2 53) (h : ofInt m = ofInt n) : m = n := by
  obtain ⟨a, ha, hma⟩ := exists_ofInt hm
  obtain ⟨b, hb, hnb⟩ := exists_ofInt hn
  rw [hma, hnb] at h
  obtain ⟨hs, rfl⟩ := finite.inj h
  have hs := decide_eq_decide.mp hs
  have hmu := units_of_le (Nat.le_of_lt hl) ha
  by_cases hk : n.natAbs ≤ Nat.pow 2 53
  · have hu := (units_of_le hk hb).symm.trans hmu
    have hab := Nat.eq_of_mul_eq_mul_right unitsPerOne_pos hu
    omega
  · have hu := le_units (Nat.le_of_not_le hk) hb
    rw [hmu] at hu
    exact absurd (Nat.le_of_mul_le_mul_right hu unitsPerOne_pos) (Nat.not_le_of_lt hl)

/-- Rounding tells an integer below 2⁵³ from all others. -/
theorem ofInt_inj (hl : m.natAbs < Nat.pow 2 53 ∨ n.natAbs < Nat.pow 2 53) :
    ofInt m = ofInt n ↔ m = n := by
  refine ⟨fun h => ?_, congrArg ofInt⟩
  rcases hl with hl | hl
  · exact eq_of_ofInt_eq hm hn hl h
  · exact (eq_of_ofInt_eq hn hm hl h.symm).symm

end Binary64

theorem Json.Number.isFinite_toBinary64 (n : Number) : n.toBinary64.isFinite = true := by
  cases n with
  | int n h => exact Binary64.isFinite_ofInt (by omega)
  | float negative m => rfl

end Toolflow
