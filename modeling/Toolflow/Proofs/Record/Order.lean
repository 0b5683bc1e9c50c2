import Toolflow.Proofs.Binary64.Integers
import Toolflow.Proofs.Record.Arrangement
import Toolflow.Record.Sort

/-!
The order that records are sorted in. Every value, also a missing one, has a place (`place`), and
values compare as their places do, one component after the other (`compare_eq`), whatever they are.
So the order is a total preorder, in either direction, and records have one stable arrangement only.
Main statement: `compare_total_preorder`.
-/

namespace Toolflow.Record

open Json Calendar Std

/-- Groups come first: numbers, dates, other strings, other values, and what is missing. Within a
group, numbers go by their place in the order of numbers, dates by their moment, and all else by
spelling. -/
structure Place where
  group : Nat
  position : Int
  nanos : Nat
  spelling : String

namespace Place

def missing : Place := ⟨4, 0, 0, ""⟩

def compare : Place → Place → Ordering :=
  compareLex (compareOn group)
    (compareLex (compareOn position) (compareLex (compareOn nanos) (compareOn spelling)))

instance : TransCmp Place.compare :=
  inferInstanceAs (TransCmp (compareLex (compareOn group)
    (compareLex (compareOn position) (compareLex (compareOn nanos) (compareOn spelling)))))

theorem compare_swap (p q : Place) : p.compare q = (q.compare p).swap :=
  OrientedCmp.eq_swap

theorem compare_of_group_lt {p q : Place} (h : p.group < q.group) : p.compare q = .lt := by
  rw [Place.compare, compareLex, compareOn, Nat.compare_eq_lt.mpr h]
  rfl

end Place

/-- Null is placed as if it were missing. -/
def placeOf : Value → Place
  | .null => .missing
  | .number n => ⟨0, n.toBinary64.rank.getD 0, 0, ""⟩
  | .string s => (Moment.read? s).elim ⟨2, 0, 0, s⟩ fun m => ⟨1, m.seconds, m.nanos, ""⟩
  | v => ⟨3, 0, 0, v.text⟩

def place (v : Option Value) : Place :=
  v.elim .missing placeOf

/-- How two records compare in a direction. -/
def Direction.order (direction : Direction) (property : String) (a b : Value) : Ordering :=
  direction.apply (compare (a.member? property) (b.member? property))

theorem compare?_numbers (m n : Number) :
    ∃ x y, m.toBinary64.rank = some x ∧ n.toBinary64.rank = some y ∧
    m.toBinary64.compare? n.toBinary64 = some (Ord.compare x y) := by
  obtain ⟨x, hx⟩ := Binary64.exists_rank m.isFinite_toBinary64
  obtain ⟨y, hy⟩ := Binary64.exists_rank n.isFinite_toBinary64
  exact ⟨x, y, hx, hy, Binary64.compare?_of_rank hx hy⟩

theorem compareValues_numbers (m n : Number) :
    compareValues (.number m) (.number n) =
      (placeOf (.number m)).compare (placeOf (.number n)) := by
  obtain ⟨x, y, hx, hy, hc⟩ := compare?_numbers m n
  rw [compareValues, hc, placeOf, placeOf, hx, hy]
  simp [Place.compare, compareLex, compareOn]

theorem compareValues_strings (s t : String) :
    compareValues (.string s) (.string t) =
      (placeOf (.string s)).compare (placeOf (.string t)) := by
  simp only [compareValues, compareStrings, placeOf]
  cases Moment.read? s with
  | none =>
    cases Moment.read? t with
    | none => rfl
    | some y => rfl
  | some x =>
    cases Moment.read? t with
    | none => rfl
    | some y => simp [Place.compare, compareLex, compareOn, Moment.compare]

theorem compareValues_of_kindRank_ne {a b : Value} (h : kindRank a ≠ kindRank b) :
    compareValues a b = Ord.compare (kindRank a) (kindRank b) := by
  unfold compareValues
  split
  · exact absurd rfl h
  · exact absurd rfl h
  · cases hc : Ord.compare (kindRank a) (kindRank b) with
    | eq => exact absurd (Nat.compare_eq_eq.mp hc) h
    | lt | gt => rfl

theorem compareValues_of_other {a b : Value} (ha : kindRank a = 2) (hb : kindRank b = 2) :
    compareValues a b = Ord.compare a.text b.text := by
  unfold compareValues
  split
  · cases ha
  · cases ha
  · rw [ha, hb]
    rfl

theorem placeOf_of_other {v : Value} (h : kindRank v = 2) (hn : v.isNull = false) :
    placeOf v = ⟨3, 0, 0, v.text⟩ := by
  cases v with
  | null => cases hn
  | number | string => cases h
  | bool | array | object => rfl

/-- The groups refine the ranks of kinds. -/
theorem group_cases (v : Value) : kindRank v = 0 ∧ (placeOf v).group = 0 ∨
    kindRank v = 1 ∧ 1 ≤ (placeOf v).group ∧ (placeOf v).group ≤ 2 ∨ kindRank v = 2 ∧
      3 ≤ (placeOf v).group := by
  cases v with
  | number n => exact .inl ⟨rfl, rfl⟩
  | string s =>
    refine .inr (.inl ⟨rfl, ?_⟩)
    rw [placeOf]
    cases Moment.read? s with
    | none => exact ⟨Nat.le_succ 1, Nat.le_refl 2⟩
    | some m => exact ⟨Nat.le_refl 1, Nat.le_succ 1⟩
  | null => exact .inr (.inr ⟨rfl, Nat.le_succ 3⟩)
  | bool | array | object => exact .inr (.inr ⟨rfl, Nat.le_refl 3⟩)

theorem group_lt {a b : Value} (h : kindRank a < kindRank b) :
    (placeOf a).group < (placeOf b).group := by
  have ha := group_cases a
  have hb := group_cases b
  omega

/-- Values of different kinds differ by their groups already. -/
theorem compareValues_eq {a b : Value} (ha : a.isNull = false) (hb : b.isNull = false) :
    compareValues a b = (placeOf a).compare (placeOf b) := by
  obtain h | h | h := Nat.lt_trichotomy (kindRank a) (kindRank b)
  · rw [compareValues_of_kindRank_ne (Nat.ne_of_lt h), Nat.compare_eq_lt.mpr h,
      Place.compare_of_group_lt (group_lt h)]
  -- Of one kind: two numbers, two strings, or two values that have no order but that of their
  -- texts.
  · cases a with
    | null => cases ha
    | number m =>
      cases b with
      | number n => exact compareValues_numbers m n
      | null | bool | string | array | object => cases h
    | string s =>
      cases b with
      | string t => exact compareValues_strings s t
      | null | bool | number | array | object => cases h
    | bool | array | object =>
      rw [compareValues_of_other rfl h.symm, placeOf_of_other rfl ha, placeOf_of_other h.symm hb]
      rfl
  · rw [compareValues_of_kindRank_ne (Nat.ne_of_gt h), Nat.compare_eq_gt.mpr h, Place.compare_swap,
      Place.compare_of_group_lt (group_lt h)]
    rfl

theorem placeOf_lt_missing {v : Value} (h : v.isNull = false) :
    (placeOf v).compare .missing = .lt := by
  refine Place.compare_of_group_lt ?_
  have hm : Place.missing.group = 4 := rfl
  obtain ⟨-, hg⟩ | ⟨-, -, hg⟩ | ⟨hk, -⟩ := group_cases v
  · omega
  · omega
  · rw [placeOf_of_other hk h, hm]
    exact Nat.lt_succ_self 3

theorem present?_cases (v : Option Value) : present? v = none ∧ place v = .missing ∨
    ∃ a, present? v = some a ∧ a.isNull = false ∧ place v = placeOf a := by
  cases v with
  | none => exact .inl ⟨rfl, rfl⟩
  | some a =>
    cases hn : a.isNull with
    | true =>
      obtain rfl := Value.isNull_iff.mp hn
      exact .inl ⟨rfl, rfl⟩
    | false => exact .inr ⟨a, by simp [present?, hn], hn, rfl⟩

/-- Values compare as their places do. -/
theorem compare_eq (a b : Option Value) : compare a b = (place a).compare (place b) := by
  obtain ⟨hpa, ha⟩ | ⟨x, hpa, hx, ha⟩ := present?_cases a
  · obtain ⟨hpb, hb⟩ | ⟨y, hpb, hy, hb⟩ := present?_cases b
    · rw [compare, hpa, hpb, ha, hb]
      rfl
    · rw [compare, hpa, hpb, ha, hb, Place.compare_swap, placeOf_lt_missing hy]
      rfl
  · obtain ⟨hpb, hb⟩ | ⟨y, hpb, hy, hb⟩ := present?_cases b
    · rw [compare, hpa, hpb, ha, hb, placeOf_lt_missing hx]
    · rw [compare, hpa, hpb, ha, hb]
      exact compareValues_eq hx hy

theorem compare_swap (a b : Option Value) : compare a b = (compare b a).swap := by
  rw [compare_eq, compare_eq]
  exact OrientedCmp.eq_swap

theorem compare_trans (a b c : Option Value) (hab : (compare a b).isLE = true)
    (hbc : (compare b c).isLE = true) :
    (compare a c).isLE = true := by
  rw [compare_eq] at hab hbc ⊢
  exact TransCmp.isLE_trans hab hbc

instance : TransCmp compare where
  eq_swap := compare_swap _ _
  isLE_trans := compare_trans _ _ _

theorem order_descending (property : String) :
    Direction.descending.order property = fun a b => Direction.ascending.order property b a :=
  funext₂ fun a b => (compare_swap (b.member? property) (a.member? property)).symm

theorem Direction.transCmp {α : Type} (direction : Direction) (order : α → α → Ordering)
    [TransCmp order] :
    TransCmp fun a b => direction.apply (order a b) := by
  cases direction with
  | ascending => exact inferInstanceAs (TransCmp order)
  | descending =>
    have hs : (fun a b => Direction.descending.apply (order a b)) = fun a b => order b a :=
      funext₂ fun a b => OrientedCmp.eq_swap.symm
    rw [hs]
    exact TransCmp.opposite

instance (property : String) : TransCmp (Direction.ascending.order property) where
  eq_swap {a b} := compare_swap (a.member? property) (b.member? property)
  isLE_trans {a b c} hab hbc :=
    compare_trans (a.member? property) (b.member? property) (c.member? property) hab hbc

instance (direction : Direction) (property : String) : TransCmp (direction.order property) :=
  direction.transCmp (Direction.ascending.order property)

theorem arranges_sort (items : List Value) (property : String) (direction : Direction) :
    Arranges (direction.order property) items (sort items property direction) :=
  arranges_mergeSort items

/-- Whatever two values are, they compare as their places do, and the other way round in reverse;
not being greater is transitive, also between values of different kinds; and numbers compare as
finite values. So the comparison of records is consistent in either direction, and there is one way
to arrange them by it that keeps the order of those that compare equal, however it is found. -/
theorem compare_total_preorder :
    (∀ a b : Option Value, compare a b = (place a).compare (place b)) ∧
    (∀ a b : Option Value, compare b a = (compare a b).swap) ∧
    (∀ a b c : Option Value, compare a b ≠ .gt → compare b c ≠ .gt → compare a c ≠ .gt) ∧
    (∀ m n : Number, m.toBinary64.isFinite = true ∧
      m.toBinary64.compare? n.toBinary64 = some (compare (some (.number m)) (some (.number n)))) ∧
    (∀ (direction : Direction) property, TransCmp (direction.order property)) ∧
    ∀ (direction : Direction) property items arranged,
      Arranges (direction.order property) items arranged ↔
        arranged = sort items property direction := by
  refine ⟨compare_eq, fun a b => compare_swap b a, fun a b c => ne_gt_trans, ?_,
    fun _ _ => inferInstance, ?_⟩
  · intro m n
    obtain ⟨x, y, -, -, hc⟩ := compare?_numbers m n
    have hn : compare (some (.number m)) (some (.number n)) =
        (m.toBinary64.compare? n.toBinary64).getD .eq := rfl
    rw [hn, hc]
    exact ⟨m.isFinite_toBinary64, rfl⟩
  · intro direction property items arranged
    constructor
    · intro h
      exact h.unique (arranges_sort items property direction)
    · rintro rfl
      exact arranges_sort items property direction

/-- A day, a time with a zone, and a text that only begins like a date. -/
theorem compare_total_preorder_rehearsed :
    let day := some (Value.string "2024-01-15")
    let time := some (Value.string "2024-03-01T05:00:00-08:00")
    let text := some (Value.string "2024-03-01T07")
    compare day time ≠ .gt ∧ compare time text ≠ .gt ∧ compare day text ≠ .gt := by
  intro day time text
  obtain ⟨-, -, htrans, -⟩ := compare_total_preorder
  have hd : compare day time ≠ .gt := by decide +kernel
  have ht : compare time text ≠ .gt := by decide +kernel
  exact ⟨hd, ht, htrans day time text hd ht⟩

end Toolflow.Record
