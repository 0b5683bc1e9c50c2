import Toolflow.Json.Value
import Toolflow.Proofs.Binary64.Integers

/-!
Numbers are written as integers or as floats, and the same value can be written in both ways. Values
are the same up to notation (`Value.Same`) if they have the same structure and the numbers in the
same places the same exact value. Equality of JSON values asks for the same notation besides
(`Value.equal_iff`).
-/

namespace Toolflow.Json

namespace Number

/-- The exact value, in units of 2⁻¹⁰⁷⁴. -/
def units : Number → Int
  | .int n _ => n * unitsPerOne
  | .float negative m => Binary64.signed negative m.units

/-- The value of the 64-bit format next to it, in the same units. -/
def rounded (n : Number) : Int :=
  n.toBinary64.rank.getD 0

def isInteger : Number → Bool
  | .int _ _ => true
  | .float _ _ => false

def SameValue (a b : Number) : Prop :=
  a.units = b.units

/-- Both are written as integers or both as floats. -/
def SameNotation (a b : Number) : Prop :=
  a.isInteger = b.isInteger

instance : DecidableRel SameValue := fun a b => inferInstanceAs (Decidable (a.units = b.units))

variable {a b : Number}

theorem near_iff (a b : Number) :
    a.toBinary64.near b.toBinary64 = true ↔ (a.rounded - b.rounded).natAbs < Binary64.nearness := by
  have ha := a.isFinite_toBinary64
  have hb := b.isFinite_toBinary64
  rw [rounded, rounded]
  cases hx : a.toBinary64 with
  | nan | infinite => cases hx ▸ ha
  | finite s m =>
    cases hy : b.toBinary64 with
    | nan | infinite => cases hy ▸ hb
    | finite t n => exact Binary64.near_iff

theorem signed_natAbs_mul (n : Int) (k : Nat) :
    Binary64.signed (decide (n < 0)) (n.natAbs * k) = n * k := by
  by_cases hn : n < 0
  · have ha : (n.natAbs : Int) = -n := by omega
    rw [decide_eq_true hn, Binary64.signed, if_pos rfl, Int.natCast_mul, ha,
      Int.neg_mul, Int.neg_neg]
  · have ha : (n.natAbs : Int) = n := by omega
    rw [decide_eq_false hn, Binary64.signed, if_neg Bool.false_ne_true, Int.natCast_mul, ha]

theorem sameValue_int_iff {m n : Int} {hm : -0x8000000000000000 ≤ m ∧ m < 0x10000000000000000}
    {hn : -0x8000000000000000 ≤ n ∧ n < 0x10000000000000000} :
    (int m hm).SameValue (int n hn) ↔ m = n := by
  have hu : (unitsPerOne : Int) ≠ 0 :=
    Int.natCast_ne_zero.mpr (Nat.ne_of_gt Binary64.unitsPerOne_pos)
  exact Int.mul_eq_mul_right_iff hu

theorem rounded_int_of_units_eq {n : Int} {h : -0x8000000000000000 ≤ n ∧ n < 0x10000000000000000}
    {s : Bool} {m : Magnitude}
    (hu : n * unitsPerOne = Binary64.signed s m.units) : (int n h).rounded = n * unitsPerOne := by
  obtain ⟨a, ha, hn⟩ := Binary64.exists_ofInt (n := n) (by omega)
  have hm : n.natAbs * unitsPerOne = m.units := by
    rw [← Binary64.natAbs_signed s m.units, ← hu, Int.natAbs_mul, Int.natAbs_natCast]
  have hr : (int n h).rounded = Binary64.signed (decide (n < 0)) a.units := by
    rw [rounded, toBinary64, hn]
    rfl
  rw [hm, Magnitude.nearest?_units] at ha
  obtain rfl := Option.some.inj ha
  rw [hr, ← hm, signed_natAbs_mul]

/-- Rounding depends on the exact value only. -/
theorem rounded_eq_of_sameValue (h : a.SameValue b) : a.rounded = b.rounded := by
  cases a with
  | int m hm =>
    cases b with
    | int n hn =>
      obtain rfl := sameValue_int_iff.mp h
      rfl
    | float t n => exact (rounded_int_of_units_eq h).trans h
  | float s m =>
    cases b with
    | int n hn => exact h.trans (rounded_int_of_units_eq h.symm).symm
    | float t n => exact h

theorem equal_iff : a.equal b = true ↔ a.SameValue b ∧ a.SameNotation b := by
  cases a with
  | int m hm =>
    cases b with
    | int n hn =>
      simp only [equal, beq_iff_eq, sameValue_int_iff, SameNotation, isInteger, and_true]
    | float t n => exact iff_of_false Bool.false_ne_true fun h => Bool.noConfusion h.2
  | float s m =>
    cases b with
    | int n hn => exact iff_of_false Bool.false_ne_true fun h => Bool.noConfusion h.2
    | float t n =>
      have hc : (Binary64.finite s m).compare? (.finite t n) =
          some (compare (float s m).units (float t n).units) := rfl
      simp [equal, Binary64.equal, hc, SameValue, SameNotation, isInteger]

end Number

namespace Value

mutual

/-- The same structure throughout, and related numbers in the same places. -/
def Matches (R : Number → Number → Prop) : Value → Value → Prop
  | .null, .null => True
  | .bool a, .bool b => a = b
  | .number a, .number b => R a b
  | .string a, .string b => a = b
  | .array as, .array bs => ItemsMatch R as bs
  | .object as, .object bs => MembersMatch R as bs
  | _, _ => False

def ItemsMatch (R : Number → Number → Prop) : List Value → List Value → Prop
  | [], [] => True
  | a :: as, b :: bs => Matches R a b ∧ ItemsMatch R as bs
  | _, _ => False

def MembersMatch (R : Number → Number → Prop) : List (String × Value) → List (String × Value) → Prop
  | [], [] => True
  | (j, a) :: as, (k, b) :: bs => j = k ∧ Matches R a b ∧ MembersMatch R as bs
  | _, _ => False

end

/-- The same value, whatever the notation of its numbers. -/
abbrev Same : Value → Value → Prop :=
  Matches Number.SameValue

/-- Numbers in the same places are written in the same notation. -/
abbrev SameNotation : Value → Value → Prop :=
  Matches Number.SameNotation

theorem same_number_iff {a b : Number} : (number a).Same (number b) ↔ a.SameValue b := by
  rw [Same, Matches]

mutual

theorem equal_iff : ∀ v w : Value, v.equal w = true ↔ v.Same w ∧ v.SameNotation w
  | .null, w => by cases w <;> simp [equal, Matches]
  | .bool a, w => by cases w <;> simp [equal, Matches]
  | .number a, w => by cases w <;> simp [equal, Matches, Number.equal_iff]
  | .string a, w => by cases w <;> simp [equal, Matches]
  | .array as, w => by
    cases w with
    | array bs => exact equalItems_iff as bs
    | null | bool | number | string | object => simp [equal, Matches]
  | .object as, w => by
    cases w with
    | object bs => exact equalMembers_iff as bs
    | null | bool | number | string | array => simp [equal, Matches]

theorem equalItems_iff : ∀ as bs : List Value,
    equalItems as bs = true ↔ ItemsMatch Number.SameValue as bs ∧
      ItemsMatch Number.SameNotation as bs
  | [], bs => by cases bs <;> simp [equalItems, ItemsMatch]
  | a :: as, [] => by simp [equalItems, ItemsMatch]
  | a :: as, b :: bs => by
    rw [equalItems, ItemsMatch, ItemsMatch, Bool.and_eq_true, equal_iff a b, equalItems_iff as bs]
    exact and_and_and_comm

theorem equalMembers_iff : ∀ as bs : List (String × Value),
    equalMembers as bs = true ↔ MembersMatch Number.SameValue as bs ∧
      MembersMatch Number.SameNotation as bs
  | [], bs => by cases bs <;> simp [equalMembers, MembersMatch]
  | (j, a) :: as, [] => by simp [equalMembers, MembersMatch]
  | (j, a) :: as, (k, b) :: bs => by
    rw [equalMembers, MembersMatch, MembersMatch, Bool.and_eq_true, Bool.and_eq_true,
      beq_iff_eq, equal_iff a b, equalMembers_iff as bs]
    grind

end

end Value

end Toolflow.Json
