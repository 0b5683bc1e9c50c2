import Mathlib.Algebra.BigOperators.Intervals
import Mathlib.Tactic.IntervalCases
import Toolflow.Calendar.Moment

/-!
Days of the calendar, counted one by one from the start of year 0: whole years, then whole months,
then days. The numbers that dates have are these, up to the year that they start from
(`Day.dayNumber_date`).
-/

namespace Toolflow.Calendar

/-- Every fourth year, but of the full centuries only every fourth. -/
def IsLeap (year : Nat) : Prop :=
  4 ∣ year ∧ (100 ∣ year → 400 ∣ year)

instance (year : Nat) : Decidable (IsLeap year) :=
  inferInstanceAs (Decidable (_ ∧ _))

def daysOfMonth (year month : Nat) : Nat :=
  if month = 2 then if IsLeap year then 29 else 28
  else if month ∈ [4, 6, 9, 11] then 30 else 31

theorem daysOfMonth_le (year month : Nat) : daysOfMonth year month ≤ 31 := by
  unfold daysOfMonth
  split
  · split <;> decide
  · split <;> decide

def daysOfYear (year : Nat) : Nat :=
  ∑ month ∈ Finset.Ico 1 13, daysOfMonth year month

/-- A day of a year that has four digits. -/
structure Day where
  year : Nat
  month : Nat
  day : Nat
  year_lt : year < 10000
  month_pos : 1 ≤ month
  month_le : month ≤ 12
  day_pos : 1 ≤ day
  day_le : day ≤ daysOfMonth year month

namespace Day

/-- How many days there are before it. -/
def number (d : Day) : Nat :=
  ∑ year ∈ Finset.range d.year, daysOfYear year + ∑ month ∈
    Finset.Ico 1 d.month, daysOfMonth d.year month + (d.day - 1)

def date (d : Day) : Date := ⟨d.year, d.month, d.day⟩

end Day

theorem isLeapYear_iff (year : Nat) : isLeapYear year = true ↔ IsLeap year := by
  rw [isLeapYear, decide_eq_true_iff, IsLeap]
  omega

theorem daysOfYear_eq (year : Nat) : daysOfYear year = if IsLeap year then 366 else 365 := by
  by_cases h : IsLeap year <;> simp [daysOfYear, daysOfMonth, Finset.sum_Ico_succ_top, h]

/-- The leap days of the years before are counted by divisions. -/
theorem sum_daysOfYear (year : Nat) : ((∑ y ∈ Finset.range year, daysOfYear y : Nat) : Int) =
    365 * (year - 1) + (year - 1) / 4 - (year - 1) / 100 + (year - 1) / 400 + 366 := by
  induction year with
  | zero => rfl
  | succ year ih =>
    rw [Finset.sum_range_succ, Nat.cast_add, ih, daysOfYear_eq]
    by_cases h : IsLeap year
    · rw [if_pos h]
      unfold IsLeap at h
      omega
    · rw [if_neg h]
      unfold IsLeap at h
      omega

theorem monthLengths_eq (year : Nat) :
    monthLengths year = (List.range' 1 12).map (daysOfMonth year) := by
  have h := isLeapYear_iff year
  by_cases hy : IsLeap year
  · simp [monthLengths, h.mpr hy, daysOfMonth, hy, List.range']
  · simp [monthLengths, mt h.mp hy, daysOfMonth, hy, List.range']

theorem getD_monthLengths (year : Nat) {month : Nat} (hp : 1 ≤ month) (hl : month ≤ 12) :
    (monthLengths year)[month - 1]?.getD 0 = daysOfMonth year month := by
  have hm : 1 + (month - 1) = month := by omega
  rw [monthLengths_eq, List.getElem?_map, List.getElem?_range' (by omega), Nat.one_mul, hm]
  rfl

theorem sum_monthLengths (year : Nat) {month : Nat} (hl : month ≤ 12) :
    ((monthLengths year).take (month - 1)).foldl Nat.add 0 =
      ∑ m ∈ Finset.Ico 1 month, daysOfMonth year m := by
  have ht : (List.range' 1 12).take (month - 1) = List.range' 1 (month - 1) :=
    List.take_range'_of_length_ge (by omega)
  rw [monthLengths_eq, ← List.map_take, ht]
  exact List.sum_eq_foldl.symm

namespace Day

theorem isValid_date (d : Day) : d.date.isValid = true := by
  have hy := d.year_lt
  have hm := getD_monthLengths d.year d.month_pos d.month_le
  simp only [Date.isValid, date, hm, decide_eq_true_iff]
  exact ⟨by omega, by omega, d.month_pos, d.month_le, d.day_pos, d.day_le⟩

/-- Year 0 has 366 days. -/
theorem dayNumber_date (d : Day) : d.date.dayNumber = d.number - 366 := by
  have hy := sum_daysOfYear d.year
  have hm := sum_monthLengths d.year d.month_le
  have hd := d.day_pos
  simp only [Date.dayNumber, date, hm, number]
  omega

end Day

end Toolflow.Calendar
