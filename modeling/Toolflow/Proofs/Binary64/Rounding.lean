import Toolflow.Binary64.Basic

/-!
Rounding to the nearest magnitude. A quotient rounds to more than `k` just if it lies beyond the
middle between `k` and the next integer (`roundQuotient_le_iff`). A count of units on the grid stays
as it is (`Magnitude.nearest?_units`), and no count falls below its leading bit
(`Magnitude.two_pow_log2_le`). So it can be told without rounding whether two values are near each
other (`Binary64.near_iff`).
-/

namespace Toolflow

theorem roundQuotient_le_iff (num k : Nat) {den : Nat} (hd : 0 < den) : roundQuotient num den ≤ k ↔
    2 * num < (2 * k + 1) * den ∨ 2 * num = (2 * k + 1) * den ∧ k % 2 = 0 := by
  have hq : den * (num / den) + num % den = num := Nat.div_add_mod num den
  have hr : num % den < den := Nat.mod_lt num hd
  have hk : (2 * k + 1) * den = 2 * (den * k) + den := by
    rw [Nat.add_mul, Nat.one_mul, Nat.mul_assoc, Nat.mul_comm k]
  rw [hk, roundQuotient]
  obtain h | h | h := Nat.lt_trichotomy (num / den) k
  · have hm : den * (num / den + 1) ≤ den * k := Nat.mul_le_mul_left den h
    rw [Nat.mul_add, Nat.mul_one] at hm
    split <;> omega
  · subst h
    split <;> omega
  · have hm : den * (k + 1) ≤ den * (num / den) := Nat.mul_le_mul_left den h
    rw [Nat.mul_add, Nat.mul_one] at hm
    split <;> omega

theorem roundQuotient_of_dvd {num den : Nat} (hd : 0 < den) (h : den ∣ num) :
    roundQuotient num den = num / den := by
  rw [roundQuotient, Nat.mod_eq_zero_of_dvd h, if_pos (.inl hd)]

theorem le_roundQuotient (num den : Nat) : num / den ≤ roundQuotient num den := by
  unfold roundQuotient
  split <;> omega

theorem spacing_pos (n : Nat) : 0 < spacing n :=
  Nat.two_pow_pos _

theorem spacing_le (n : Nat) : spacing n ≤ n + 1 := by
  rw [spacing, Nat.pow_eq]
  have hp : 2 ^ (n.log2 - 52) ≤ 2 ^ n.log2 := Nat.pow_le_pow_right (by omega) (by omega)
  by_cases hn : n = 0
  · subst hn
    exact Nat.le_refl 1
  · have hl := Nat.log2_self_le hn
    omega

theorem dvd_spacing {n k p : Nat} (hp : p = Nat.pow 2 k) (h : p * 0x10000000000000 ≤ n) :
    p ∣ spacing n := by
  have hpow : 0x10000000000000 = Nat.pow 2 52 := rfl
  rw [hp, hpow, Nat.pow_eq, Nat.pow_eq, ← Nat.pow_add] at h
  have hn : n ≠ 0 := Nat.ne_of_gt (Nat.lt_of_lt_of_le (Nat.two_pow_pos _) h)
  have hl : k + 52 ≤ n.log2 := (Nat.le_log2 hn).mpr h
  rw [hp]
  exact Nat.pow_dvd_pow 2 (by omega)

theorem spacing_le_pow {n k : Nat} (h : n < Nat.pow 2 (k + 53)) : spacing n ≤ Nat.pow 2 k := by
  by_cases hn : n = 0
  · subst hn
    exact Nat.two_pow_pos k
  · have hl : n.log2 < k + 53 := (Nat.log2_lt hn).mpr h
    exact Nat.pow_le_pow_right (by omega) (by omega)

/-- The middle between `2^(k + 54)` and the point of the grid below it. -/
def middleBelow (k : Nat) : Nat :=
  (0x40000000000000 - 1) * Nat.pow 2 k

namespace Magnitude

variable {n : Nat} {m : Magnitude}

theorem exists_nearest? (h : 2 * n + 1 < unitsLimit) : ∃ m, nearest? n 1 = some m := by
  have hs := spacing_le n
  have hr : roundQuotient n (spacing n) * spacing n ≤ (n / spacing n + 1) * spacing n :=
    Nat.mul_le_mul_right _ (roundQuotient_le n (spacing n))
  have hd : n / spacing n * spacing n ≤ n := Nat.div_mul_le_self n (spacing n)
  have hu : roundQuotient n (1 * spacing (n / 1)) * spacing (n / 1) < unitsLimit := by
    rw [Nat.div_one, Nat.one_mul]
    rw [Nat.add_mul, Nat.one_mul] at hr
    omega
  rw [nearest?]
  simp only [hu, dite_true]
  exact ⟨_, rfl⟩

theorem nearest?_eq_some_iff :
    nearest? n 1 = some m ↔ m.units = roundQuotient n (spacing n) * spacing n := by
  obtain ⟨units, hg, hb⟩ := m
  simp only [nearest?, Nat.div_one, Nat.one_mul]
  constructor
  · intro h
    split at h
    · cases h
      rfl
    · cases h
  · rintro rfl
    rw [dif_pos hb]

theorem nearest?_units (m : Magnitude) : nearest? m.units 1 = some m := by
  rw [nearest?_eq_some_iff, roundQuotient_of_dvd (spacing_pos _) m.onGrid,
    Nat.div_mul_cancel m.onGrid]

theorem eq_of_units_eq {a b : Magnitude} (h : a.units = b.units) : a = b := by
  have ha := nearest?_units a
  rw [h, nearest?_units b] at ha
  exact (Option.some.inj ha).symm

theorem units_of_dvd (hd : spacing n ∣ n) (h : nearest? n 1 = some m) : m.units = n := by
  rw [nearest?_eq_some_iff.mp h, roundQuotient_of_dvd (spacing_pos n) hd, Nat.div_mul_cancel hd]

theorem spacing_dvd (h : nearest? n 1 = some m) : spacing n ∣ m.units :=
  nearest?_eq_some_iff.mp h ▸ Nat.dvd_mul_left _ _

theorem units_le (h : nearest? n 1 = some m) : m.units ≤ n + spacing n := by
  have hr : roundQuotient n (spacing n) * spacing n ≤ (n / spacing n + 1) * spacing n :=
    Nat.mul_le_mul_right _ (roundQuotient_le n (spacing n))
  have hd : n / spacing n * spacing n ≤ n := Nat.div_mul_le_self n (spacing n)
  rw [Nat.add_mul, Nat.one_mul] at hr
  rw [nearest?_eq_some_iff.mp h]
  omega

theorem two_pow_log2_le (hn : n ≠ 0) (h : nearest? n 1 = some m) : Nat.pow 2 n.log2 ≤ m.units := by
  have hs : spacing n ∣ Nat.pow 2 n.log2 := Nat.pow_dvd_pow 2 (by omega)
  have hl : Nat.pow 2 n.log2 ≤ n := Nat.log2_self_le hn
  calc Nat.pow 2 n.log2 = Nat.pow 2 n.log2 / spacing n * spacing n := (Nat.div_mul_cancel hs).symm
    _ ≤ n / spacing n * spacing n := Nat.mul_le_mul_right _ (Nat.div_le_div_right hl)
    _ ≤ roundQuotient n (spacing n) * spacing n := Nat.mul_le_mul_right _ (le_roundQuotient n _)
    _ = m.units := (nearest?_eq_some_iff.mp h).symm

theorem two_pow_le {e p : Nat} (hp : p = Nat.pow 2 e) (hn : p ≤ n) (h : nearest? n 1 = some m) :
    p ≤ m.units := by
  rw [hp] at hn ⊢
  have hz : n ≠ 0 := Nat.ne_of_gt (Nat.lt_of_lt_of_le (Nat.two_pow_pos e) hn)
  have hl : Nat.pow 2 e ≤ Nat.pow 2 n.log2 :=
    Nat.pow_le_pow_right (by omega) ((Nat.le_log2 hz).mpr hn)
  exact Nat.le_trans hl (two_pow_log2_le hz h)

-- Below `2^(k + 54)` the grid has a spacing of `2^(k + 1)` and ends with an odd multiple of it, so
-- the middle rounds up.
theorem units_lt_iff {k p : Nat} (hp : p = Nat.pow 2 (k + 54)) (h : nearest? n 1 = some m) :
    m.units < p ↔ n < middleBelow k := by
  rw [hp, middleBelow]
  have hpow (e : Nat) : Nat.pow 2 (k + e) = 2 ^ e * Nat.pow 2 k := by
    simp only [Nat.pow_eq, Nat.pow_add, Nat.mul_comm]
  obtain hn | hn | hn : n < Nat.pow 2 (k + 53) ∨ (Nat.pow 2 (k + 53) ≤ n ∧ n < Nat.pow 2 (k + 54)) ∨
      Nat.pow 2 (k + 54) ≤ n := by omega
  · have hu := units_le h
    have hs := spacing_le_pow hn
    rw [hpow] at hn ⊢
    omega
  · have hs : spacing n = Nat.pow 2 (k + 1) := by
      have hl : Nat.pow 2 (k + 1) * 0x10000000000000 ≤ n := by
        rw [hpow] at hn ⊢
        omega
      exact Nat.le_antisymm (spacing_le_pow hn.2)
        (Nat.le_of_dvd (spacing_pos n) (dvd_spacing rfl hl))
    have hr := roundQuotient_le_iff n (2 ^ 53 - 1) (spacing_pos n)
    have hm : m.units < Nat.pow 2 (k + 54) ↔ roundQuotient n (spacing n) < 2 ^ 53 := by
      have hp : Nat.pow 2 (k + 54) = 2 ^ 53 * spacing n := by
        rw [hs, hpow, hpow]
        omega
      rw [nearest?_eq_some_iff.mp h, hp]
      exact Nat.mul_lt_mul_right (spacing_pos n)
    rw [hs, hpow] at hr
    rw [hm, hs, hpow]
    omega
  · have hu := two_pow_le rfl hn h
    rw [hpow] at hn hu ⊢
    omega

end Magnitude

namespace Binary64

/-- Units in 2⁻⁵². -/
def epsilon : Nat :=
  Nat.pow 2 1022

/-- Values fewer than this many units apart are near: a difference from here on rounds to `epsilon`
at least. -/
def nearness : Nat :=
  middleBelow 968

theorem epsilon_eq : epsilon = Nat.pow 2 (968 + 54) := by
  decide +kernel

-- Of the constants of the format only their relations are needed, never their own values.

theorem nearness_pos : 0 < nearness := by
  decide +kernel

theorem nearness_le_epsilon : nearness ≤ epsilon := by
  decide +kernel

theorem epsilon_mul_eq_unitsPerOne : epsilon * 0x10000000000000 = unitsPerOne := by
  decide +kernel

theorem unitsPerOne_mul_lt_unitsLimit : unitsPerOne * 0x40000000000000000 < unitsLimit := by
  decide +kernel

@[simp]
theorem natAbs_signed (s : Bool) (n : Nat) : (signed s n).natAbs = n := by
  cases s
  · exact Int.natAbs_natCast n
  · exact (Int.natAbs_neg n).trans (Int.natAbs_natCast n)

theorem dvd_signed {s : Bool} {k n : Nat} : (k : Int) ∣ signed s n ↔ k ∣ n := by
  rw [Int.ofNat_dvd_left, natAbs_signed]

variable {s t : Bool} {a b : Magnitude}

theorem near_iff : (finite s a).near (finite t b) = true ↔
    (signed s a.units - signed t b.units).natAbs < nearness := by
  unfold near
  dsimp only
  cases hd : Magnitude.nearest? (signed s a.units - signed t b.units).natAbs 1 with
  | some d =>
    have hp : Nat.pow 2 1022 = Nat.pow 2 (968 + 54) := by decide +kernel
    exact decide_eq_true_iff.trans (Magnitude.units_lt_iff hp hd)
  | none =>
    have hle := nearness_le_epsilon
    have hone := epsilon_mul_eq_unitsPerOne
    have hlimit := unitsPerOne_mul_lt_unitsLimit
    have hn : ¬ 2 * (signed s a.units - signed t b.units).natAbs + 1 < unitsLimit := by
      intro h
      obtain ⟨d, h⟩ := Magnitude.exists_nearest? h
      cases hd.symm.trans h
    refine iff_of_false Bool.false_ne_true ?_
    omega

/-- Values that are whole multiples of 2⁻⁵² are near only if they are equal. -/
theorem near_iff_of_dvd (ha : epsilon ∣ a.units) (hb : epsilon ∣ b.units) :
    (finite s a).near (finite t b) = true ↔ signed s a.units = signed t b.units := by
  have hd : epsilon ∣ (signed s a.units - signed t b.units).natAbs := by
    rw [← Int.ofNat_dvd_left]
    exact Int.dvd_sub (dvd_signed.mpr ha) (dvd_signed.mpr hb)
  rw [near_iff, ← Int.sub_eq_zero, ← Int.natAbs_eq_zero]
  constructor
  · intro h
    exact Nat.eq_zero_of_dvd_of_lt hd (Nat.lt_of_lt_of_le h nearness_le_epsilon)
  · intro h
    exact Nat.lt_of_le_of_lt (Nat.le_of_eq h) nearness_pos

/-- From one on, all points of the grid are such multiples. -/
theorem epsilon_dvd_spacing {n : Nat} (h : unitsPerOne ≤ n) : epsilon ∣ spacing n := by
  exact dvd_spacing epsilon_eq (epsilon_mul_eq_unitsPerOne ▸ h)

end Binary64

end Toolflow
