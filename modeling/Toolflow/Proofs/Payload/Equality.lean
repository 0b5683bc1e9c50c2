import Mathlib.Data.List.Forall2
import Toolflow.Batch.Validation
import Toolflow.Condition.Expression
import Toolflow.Proofs.Json.Notation

/-!
Strict equality beside sameness of values up to notation. Two numbers are compared after rounding
and by their distance, so different ones pass if they round closely together; other values are
compared with the notation of the numbers in them, so equal ones fail if a number is written as an
integer in one and as a float in the other. There are no other differences
(`strictEqual_iff_same_iff`).
-/

namespace Toolflow

open Json

namespace Payload

variable {v w : Value}

/-- Strict equality sees what matters of two values: the difference of two numbers, and the sameness
of other values. -/
def Discerned : Value → Value → Prop
  | .number a, .number b => a.SameValue b ∨ Binary64.nearness ≤ (a.rounded - b.rounded).natAbs
  | v, w => v.Same w → v.SameNotation w

theorem discerned_number_iff {a b : Number} :
    Discerned (.number a) (.number b) ↔
      (a.toBinary64.near b.toBinary64 = true → a.SameValue b) := by
  rw [Discerned, Number.near_iff, ← Nat.not_lt, or_comm, Decidable.imp_iff_not_or]

theorem strictEqual_number_iff {a b : Number} :
    (strictEqual (.number a) (.number b) = true ↔ a.SameValue b) ↔
      Discerned (.number a) (.number b) := by
  have hs : a.SameValue b → a.toBinary64.near b.toBinary64 = true := by
    intro h
    rw [Number.near_iff, Number.rounded_eq_of_sameValue h, Int.sub_self]
    exact Binary64.nearness_pos
  rw [discerned_number_iff, strictEqual]
  exact ⟨Iff.mp, fun h => ⟨h, hs⟩⟩

theorem strictEqual_of_not_number (h : ∀ a b, v = .number a → w ≠ .number b) :
    strictEqual v w = v.equal w := by
  unfold strictEqual
  split
  · exact absurd rfl (h _ _ rfl)
  · rfl

theorem discerned_iff (h : ∀ a b, v = .number a → w ≠ .number b) :
    Discerned v w ↔ (v.Same w → v.SameNotation w) := by
  unfold Discerned
  split
  · exact absurd rfl (h _ _ rfl)
  · rfl

theorem strictEqual_iff_same (v w : Value) :
    (strictEqual v w = true ↔ v.Same w) ↔ Discerned v w := by
  by_cases h : ∃ a b, v = .number a ∧ w = .number b
  · obtain ⟨a, b, rfl, rfl⟩ := h
    rw [← strictEqual_number_iff, Value.same_number_iff]
  · have hn : ∀ a b, v = .number a → w ≠ .number b := fun a b hv hw => h ⟨a, b, hv, hw⟩
    rw [strictEqual_of_not_number hn, Value.equal_iff, discerned_iff hn]
    exact ⟨fun hs h => (hs.mpr h).2, fun hs => ⟨And.left, fun h => ⟨h, hs h⟩⟩⟩

theorem strictEqual_int_iff {m n : Int} {hm : -0x8000000000000000 ≤ m ∧ m < 0x10000000000000000}
    {hn : -0x8000000000000000 ≤ n ∧ n < 0x10000000000000000} :
    strictEqual (.number (.int m hm)) (.number (.int n hn)) = true ↔
      Binary64.ofInt m = Binary64.ofInt n := by
  rw [strictEqual, Number.toBinary64, Number.toBinary64]
  exact Binary64.near_ofInt_iff (by omega) (by omega)

theorem discerned_int {m n : Int} {hm : -0x8000000000000000 ≤ m ∧ m < 0x10000000000000000}
    {hn : -0x8000000000000000 ≤ n ∧ n < 0x10000000000000000}
    (h : m.natAbs < Nat.pow 2 53 ∨ n.natAbs < Nat.pow 2 53) :
    Discerned (.number (.int m hm)) (.number (.int n hn)) := by
  rw [← strictEqual_iff_same, strictEqual_int_iff, Value.same_number_iff, Number.sameValue_int_iff]
  exact Binary64.ofInt_inj (by omega) (by omega) h

theorem discerned_float {s t : Bool} {a b : Magnitude} (ha : unitsPerOne ≤ a.units)
    (hb : unitsPerOne ≤ b.units) :
    Discerned (.number (.float s a)) (.number (.float t b)) := by
  have hda : Binary64.epsilon ∣ a.units := Nat.dvd_trans (Binary64.epsilon_dvd_spacing ha) a.onGrid
  have hdb : Binary64.epsilon ∣ b.units := Nat.dvd_trans (Binary64.epsilon_dvd_spacing hb) b.onGrid
  exact discerned_number_iff.mpr (Binary64.near_iff_of_dvd hda hdb).mp

/-- What two arrays have in the same place may be equal by itself and differ inside of them. -/
theorem strictEqual_array_iff {as bs : List Value}
    (h : List.Forall₂ (fun a b => strictEqual a b = true) as bs) :
    strictEqual (.array as) (.array bs) = true ↔
      ∀ a b, (Value.number a, Value.number b) ∈ as.zip bs → a.SameValue b ∧ a.SameNotation b := by
  simp only [← Number.equal_iff]
  induction h with
  | nil => exact iff_of_true rfl fun a b h => absurd h List.not_mem_nil
  | @cons v w as bs hvw _ ih =>
    have hs : strictEqual (.array (v :: as)) (.array (w :: bs)) = true ↔
        v.equal w = true ∧ strictEqual (.array as) (.array bs) = true := Bool.and_eq_true_iff
    have hv : v.equal w = true ↔ ∀ a b, Value.number a = v ∧ Value.number b = w →
        a.equal b = true := by
      constructor
      · rintro h a b ⟨rfl, rfl⟩
        exact h
      · intro h
        by_cases hn : ∃ a b, Value.number a = v ∧ Value.number b = w
        · obtain ⟨a, b, rfl, rfl⟩ := hn
          exact h a b ⟨rfl, rfl⟩
        · rwa [strictEqual_of_not_number fun a b hv hw => hn ⟨a, b, hv.symm, hw.symm⟩] at hvw
    simp only [List.zip_cons_cons, List.mem_cons, Prod.mk.injEq, or_imp, forall_and, hs, hv, ih]

end Payload

theorem Condition.strictEq_apply_iff {v w : Value} :
    Operator.strictEq.apply v w = .ok true ↔ Payload.strictEqual v w = true := by
  rw [Operator.apply, Except.ok.injEq]

theorem Rule.accepts_fieldValue_iff {o : Outcome} {e : ExpectedField} {v : Value}
    (h : fieldAt? o e.field = some v) :
    accepts { fieldValue := some e } o = true ↔ Payload.strictEqual v e.value = true := by
  have hu : unmet? { fieldValue := some e } o = checkValue o e := rfl
  rw [accepts, hu, checkValue, h]
  dsimp only
  split <;> simp [*]

namespace Payload

/-- Strict equality is sameness up to notation just where it sees what matters, in conditions and in
rules alike. It sees it for integers if one is below 2⁵³ and for floats from one on; for integers in
general it compares what they round to, and for arrays of equal items it asks for the same notation
of the numbers besides. -/
theorem strictEqual_iff_same_iff (v w : Value) :
    ((strictEqual v w = true ↔ v.Same w) ↔ Discerned v w) ∧
    ((Condition.Operator.strictEq.apply v w = .ok true ↔ v.Same w) ↔ Discerned v w) ∧
    (∀ o field, Rule.fieldAt? o field = some v →
      ((Rule.accepts { fieldValue := some ⟨field, w⟩ } o = true ↔ v.Same w) ↔ Discerned v w)) ∧
    (∀ m n hm hn, v = .number (.int m hm) → w = .number (.int n hn) →
      (strictEqual v w = true ↔ Binary64.ofInt m = Binary64.ofInt n) ∧
      (m.natAbs < Nat.pow 2 53 ∨ n.natAbs < Nat.pow 2 53 → Discerned v w)) ∧
    (∀ s t a b, v = .number (.float s a) → w = .number (.float t b) →
      unitsPerOne ≤ a.units → unitsPerOne ≤ b.units → Discerned v w) ∧
    ∀ as bs, v = .array as → w = .array bs →
      List.Forall₂ (fun a b => strictEqual a b = true) as bs →
      (strictEqual v w = true ↔
        ∀ a b, (Value.number a, Value.number b) ∈ as.zip bs → a.SameValue b ∧
          a.SameNotation b) := by
  refine ⟨strictEqual_iff_same v w, ?_, ?_, ?_, ?_, ?_⟩
  · rw [Condition.strictEq_apply_iff]
    exact strictEqual_iff_same v w
  · intro o field h
    rw [Rule.accepts_fieldValue_iff (e := ⟨field, w⟩) h]
    exact strictEqual_iff_same v w
  · rintro m n hm hn rfl rfl
    exact ⟨strictEqual_int_iff, discerned_int⟩
  · rintro s t a b rfl rfl
    exact discerned_float
  · rintro as bs rfl rfl
    exact strictEqual_array_iff

theorem strictEqual_iff_same_iff_rehearsed :
    let one : Magnitude := ⟨unitsPerOne, by decide +kernel, by decide +kernel⟩
    let float := Value.number (.float false one)
    let count := Value.number (.int 3 (by omega))
    let o := Outcome.ok (.object [("count", count)])
    strictEqual float float = true ∧ Rule.fieldAt? o "count" = some count ∧
      Rule.accepts { fieldValue := some ⟨"count", count⟩ } o = true ∧
      strictEqual (.array [count]) (.array [count]) = true := by
  intro one float count o
  have hsame (n : Number) : (Value.number n).Same (.number n) := Value.same_number_iff.mpr rfl
  have hunits : one.units = unitsPerOne := by simp only [one]
  have hone : unitsPerOne ≤ one.units := Nat.le_of_eq hunits.symm
  obtain ⟨hfloats, -, -, -, hfloat, -⟩ := strictEqual_iff_same_iff float float
  obtain ⟨hcounts, -, hrule, hint, -, -⟩ := strictEqual_iff_same_iff count count
  obtain ⟨-, -, -, -, -, harray⟩ := strictEqual_iff_same_iff (.array [count]) (.array [count])
  have hcount : Discerned count count := (hint 3 3 _ _ rfl rfl).2 (.inl (by decide +kernel))
  have hfield : Rule.fieldAt? o "count" = some count := by rfl
  have heq : strictEqual count count = true := (hcounts.mpr hcount).mpr (hsame _)
  refine ⟨(hfloats.mpr (hfloat _ _ one one rfl rfl hone hone)).mpr (hsame _), hfield,
    ((hrule o "count" hfield).mpr hcount).mpr (hsame _), ?_⟩
  refine (harray [count] [count] rfl rfl (.cons heq .nil)).mpr fun a b hm => ?_
  obtain ⟨rfl, rfl⟩ : Number.int 3 _ = a ∧ Number.int 3 _ = b := by simpa [count, eq_comm] using hm
  exact ⟨rfl, rfl⟩

/-- Different integers from 2⁵³ on pass as equal, and equal numbers inside of arrays do not. -/
theorem strictEqual_unlike_same :
    let one : Magnitude := ⟨unitsPerOne, by decide +kernel, by decide +kernel⟩
    let float := Value.number (.float false one)
    let int (n : Nat) := Value.ofCount n
    (strictEqual (int 9007199254740992) (int 9007199254740993) = true ∧
      ¬ (int 9007199254740992).Same (int 9007199254740993)) ∧
    strictEqual (int 1) float = true ∧ strictEqual (.array [int 1]) (.array [float]) = false ∧
      (Value.array [int 1]).Same (.array [float]) := by
  intro one float int
  refine ⟨⟨by decide +kernel, ?_⟩, by decide +kernel, rfl, ?_⟩
  · intro h
    exact absurd (Number.sameValue_int_iff.mp (Value.same_number_iff.mp h)) (by decide)
  · have hs : (int 1).Same float := Value.same_number_iff.mpr (by decide +kernel)
    rw [Value.Same, Value.Matches, Value.ItemsMatch, Value.ItemsMatch]
    exact ⟨hs, trivial⟩

end Payload

end Toolflow
