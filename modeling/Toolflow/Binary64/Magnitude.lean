/-!
Magnitudes of the 64-bit binary floating-point format, held exactly as a count of units of 2⁻¹⁰⁷⁴.
Every operation is exact arithmetic followed by one rounding, `nearest?`. Main statement: a rounded
count lies on the grid of 53 significant bits (`spacing_dvd_mul`), so `Magnitude` holds the values
of the format and no others.
-/

namespace Toolflow

/-- The integer nearest to `num / den`; of two equally near ones the even one. -/
def roundQuotient (num den : Nat) : Nat :=
  if 2 * (num % den) < den ∨ (2 * (num % den) = den ∧ num / den % 2 = 0) then num / den
  else num / den + 1

theorem roundQuotient_le (num den : Nat) : roundQuotient num den ≤ num / den + 1 := by
  unfold roundQuotient
  split <;> omega

/-- The distance between neighbouring magnitudes around `units`: 53 significant bits, at least one
unit. -/
def spacing (units : Nat) : Nat :=
  Nat.pow 2 (units.log2 - 52)

theorem spacing_dvd_mul {k e : Nat} (hk : k ≤ Nat.pow 2 53) :
    spacing (k * Nat.pow 2 e) ∣ k * Nat.pow 2 e := by
  simp only [spacing, Nat.pow_eq] at hk ⊢
  by_cases h : k < 2 ^ 53
  · by_cases hz : k * 2 ^ e = 0
    · simp [hz]
    · have hlt : k * 2 ^ e < 2 ^ (53 + e) := by
        rw [Nat.pow_add]
        exact Nat.mul_lt_mul_of_pos_right h (Nat.two_pow_pos e)
      have hlog := (Nat.log2_lt hz).2 hlt
      exact Nat.dvd_mul_left_of_dvd (Nat.pow_dvd_pow 2 (by omega)) k
  · have hk' : k = 2 ^ 53 := by omega
    subst hk'
    rw [← Nat.pow_add, Nat.log2_two_pow]
    exact Nat.pow_dvd_pow 2 (by omega)

theorem div_spacing_lt (num den : Nat) : num / (den * spacing (num / den)) < Nat.pow 2 53 := by
  simp only [spacing, Nat.pow_eq]
  rw [← Nat.div_div_eq_div_mul, Nat.div_lt_iff_lt_mul (Nat.two_pow_pos _), ← Nat.pow_add]
  exact Nat.lt_of_lt_of_le Nat.lt_log2_self (Nat.pow_le_pow_right (by omega) (by omega))

/-- Units in the number one. -/
def unitsPerOne : Nat :=
  Nat.pow 2 1074

/-- Every finite magnitude has fewer units; this many make 2¹⁰²⁴. -/
def unitsLimit : Nat :=
  Nat.pow 2 2098

theorem unitsLimit_pos : 0 < unitsLimit := by
  decide +kernel

/-- A nonnegative finite value of the format, in units of 2⁻¹⁰⁷⁴. -/
structure Magnitude where
  units : Nat
  onGrid : spacing units ∣ units
  bounded : units < unitsLimit
deriving DecidableEq

namespace Magnitude

def zero : Magnitude :=
  ⟨0, Nat.dvd_zero _, unitsLimit_pos⟩

/-- The magnitude nearest to `num / den` units, if it is below 2¹⁰²⁴. -/
def nearest? (num den : Nat) : Option Magnitude :=
  let step := spacing (num / den)
  let units := roundQuotient num (den * step) * step
  if h : units < unitsLimit then
    some ⟨units, spacing_dvd_mul (Nat.le_trans (roundQuotient_le _ _) (div_spacing_lt num den)), h⟩
  else none

/-- The magnitude nearest to a natural number. -/
def ofNat? (n : Nat) : Option Magnitude :=
  nearest? (n * unitsPerOne) 1

/-- The magnitude nearest to `digits · 10^exponent`. Exponents far outside the range of the format
are settled first. -/
def ofDecimal? (digits : Nat) (exponent : Int) : Option Magnitude :=
  let size : Int := (Nat.toDigits 10 digits).length
  if digits = 0 ∨ exponent + size < -400 then some zero
  else if exponent + size > 400 then none
  else if 0 ≤ exponent then nearest? (digits * Nat.pow 10 exponent.toNat * unitsPerOne) 1
  else nearest? (digits * unitsPerOne) (Nat.pow 10 (-exponent).toNat)

def mul? (a b : Magnitude) : Option Magnitude :=
  nearest? (a.units * b.units) (unitsPerOne)

def div? (a b : Magnitude) : Option Magnitude :=
  nearest? (a.units * unitsPerOne) b.units

end Magnitude

end Toolflow
