import Mathlib.Data.List.Sort

/-!
Stable arrangements of a list. Under a consistent order there is exactly one way to put items in
order and leave those that compare equal as they came (`Arranges.unique`); merging finds it
(`arranges_mergeSort`), and read backwards it arranges the items, read backwards, in the opposite
order (`Arranges.reverse`).
-/

namespace Toolflow.Record

open Std

variable {α : Type} {order : α → α → Ordering} {items arranged other : List α} {a b c : α}

/-- The items in order. Of every item, those that compare equal to it are the same before and after,
in the same order. -/
structure Arranges (order : α → α → Ordering) (items arranged : List α) : Prop where
  perm : arranged.Perm items
  ordered : arranged.Pairwise fun a b => order a b ≠ .gt
  stable : ∀ a, (arranged.filter fun b => order a b = .eq) = items.filter fun b => order a b = .eq

theorem ne_gt_trans [TransCmp order] (hab : order a b ≠ .gt) (hbc : order b c ≠ .gt) :
    order a c ≠ .gt :=
  Ordering.isLE_iff_ne_gt.mp
    (TransCmp.isLE_trans (Ordering.isLE_iff_ne_gt.mpr hab) (Ordering.isLE_iff_ne_gt.mpr hbc))

theorem head_le [ReflCmp order] (h : (a :: items).Pairwise fun a b => order a b ≠ .gt)
    (hb : b ∈ a :: items) :
    order a b ≠ .gt := by
  obtain rfl | hb := List.mem_cons.mp hb
  · rw [show order b b = .eq from ReflCmp.compare_self]
    exact nofun
  · exact List.rel_of_pairwise_cons h hb

theorem mem_filter_eq_iff (order : α → α → Ordering) [ReflCmp order] :
    (a ∈ items.filter fun b => order a b = .eq) ↔ a ∈ items := by
  simp [ReflCmp.compare_self]

/-- Each head is among the other items, so neither is greater than the other, and their class begins
with both. -/
theorem eq_of_ordered [TransCmp order] (ha : arranged.Pairwise fun a b => order a b ≠ .gt)
    (ho : other.Pairwise fun a b => order a b ≠ .gt)
    (hs : ∀ a, (arranged.filter fun b => order a b = .eq) = other.filter fun b => order a b = .eq) :
    arranged = other := by
  have hm (a : α) : a ∈ arranged ↔ a ∈ other := by
    rw [← mem_filter_eq_iff order, hs a, mem_filter_eq_iff]
  induction arranged generalizing other with
  | nil =>
    exact (List.eq_nil_iff_forall_not_mem.mpr fun a h => List.not_mem_nil ((hm a).mpr h)).symm
  | cons a arranged ih =>
    cases other with
    | nil => exact absurd ((hm a).mp List.mem_cons_self) List.not_mem_nil
    | cons b other =>
      have hab : order a b ≠ .gt := head_le ha ((hm b).mpr List.mem_cons_self)
      have hba : order b a ≠ .gt := head_le ho ((hm a).mp List.mem_cons_self)
      have he : order a b = .eq :=
        OrientedCmp.isLE_antisymm (Ordering.isLE_iff_ne_gt.mpr hab)
          (Ordering.isLE_iff_ne_gt.mpr hba)
      have hh := hs a
      simp only [List.filter_cons, ReflCmp.compare_self, he, decide_true, if_true,
        List.cons.injEq] at hh
      obtain ⟨rfl, -⟩ := hh
      have ht (c : α) : (arranged.filter fun b => order c b = .eq) =
          other.filter fun b => order c b = .eq := by
        have hc := hs c
        rw [List.filter_cons, List.filter_cons] at hc
        split at hc
        · exact (List.cons.inj hc).2
        · exact hc
      rw [ih ha.of_cons ho.of_cons ht fun c => by
        rw [← mem_filter_eq_iff order, ht c, mem_filter_eq_iff]]

theorem Arranges.unique [TransCmp order] (h : Arranges order items arranged)
    (ho : Arranges order items other) :
    arranged = other :=
  eq_of_ordered h.ordered ho.ordered fun a => (h.stable a).trans (ho.stable a).symm

theorem arranges_mergeSort [TransCmp order] (items : List α) :
    Arranges order items (items.mergeSort fun a b => order a b ≠ .gt) := by
  have htrans (a b c : α) (hab : decide (order a b ≠ .gt) = true)
      (hbc : decide (order b c ≠ .gt) = true) : decide (order a c ≠ .gt) = true :=
    decide_eq_true (ne_gt_trans (of_decide_eq_true hab) (of_decide_eq_true hbc))
  have htotal (a b : α) : (decide (order a b ≠ .gt) || decide (order b a ≠ .gt)) = true := by
    rw [show order b a = (order a b).swap from OrientedCmp.eq_swap]
    cases order a b <;> rfl
  have hp := List.mergeSort_perm items fun a b => order a b ≠ .gt
  refine ⟨hp, (List.pairwise_mergeSort htrans htotal items).imp of_decide_eq_true, fun a => ?_⟩
  -- The items that compare equal to `a` are in order as they came, so merging keeps their order.
  have hc : (items.filter fun b => order a b = .eq).Pairwise fun b c =>
      decide (order b c ≠ .gt) = true := by
    refine List.pairwise_of_forall_mem_list fun b hb c hc => ?_
    have hab := of_decide_eq_true (List.mem_filter.mp hb).2
    have hac := of_decide_eq_true (List.mem_filter.mp hc).2
    rw [← TransCmp.congr_left hab, hac]
    rfl
  have hs := (List.sublist_mergeSort htrans htotal hc List.filter_sublist).filter fun b =>
    order a b = .eq
  rw [List.filter_filter] at hs
  simp only [Bool.and_self] at hs
  exact (hs.eq_of_length (hp.filter _).length_eq.symm).symm

/-- Another order on the same items may differ from it elsewhere. -/
theorem Arranges.congr {order' : α → α → Ordering} [TransCmp order']
    (h : Arranges order items arranged)
    (he : ∀ a ∈ items, ∀ b ∈ items, order a b = order' a b) : Arranges order' items arranged where
  perm := h.perm
  ordered := by
    refine h.ordered.imp_of_mem fun {a b} ha hb hab => ?_
    rwa [← he a (h.perm.mem_iff.mp ha) b (h.perm.mem_iff.mp hb)]
  stable a := by
    by_cases ha : ∃ b ∈ items, order' a b = .eq
    · obtain ⟨b, hb, hab⟩ := ha
      have hc : ∀ c ∈ items, decide (order' a c = .eq) = decide (order b c = .eq) := by
        intro c hc
        rw [TransCmp.congr_left hab, he b hb c hc]
      rw [List.filter_congr hc, List.filter_congr fun c hm => hc c (h.perm.mem_iff.mp hm),
        h.stable b]
    · have hn : ∀ c ∈ items, ¬ decide (order' a c = .eq) = true := fun c hc hac =>
        ha ⟨c, hc, of_decide_eq_true hac⟩
      rw [List.filter_eq_nil_iff.mpr hn,
        List.filter_eq_nil_iff.mpr fun c hm => hn c (h.perm.mem_iff.mp hm)]

theorem Arranges.reverse [OrientedCmp order] (h : Arranges order items arranged) :
    Arranges (fun a b => order b a) items.reverse arranged.reverse where
  perm := (List.reverse_perm arranged).trans (h.perm.trans (List.reverse_perm items).symm)
  ordered := List.pairwise_reverse.mpr h.ordered
  stable a := by
    have he (b : α) : order b a = .eq ↔ order a b = .eq := OrientedCmp.eq_comm
    simp only [he, List.filter_reverse, h.stable a]

/-- No two items that compare equal, so every class has one item at most. -/
theorem Arranges.of_reverse [TransCmp order] (hd : items.Pairwise fun a b => order a b ≠ .eq)
    (h : Arranges order items.reverse arranged) : Arranges order items arranged where
  perm := h.perm.trans (List.reverse_perm items)
  ordered := h.ordered
  stable a := by
    rw [h.stable a, List.filter_reverse]
    have hp : (items.filter fun b => order a b = .eq).Pairwise fun b c => order b c ≠ .eq :=
      hd.filter _
    have hm : ∀ b ∈ items.filter fun b => order a b = .eq, order a b = .eq :=
      fun b hb => of_decide_eq_true (List.mem_filter.mp hb).2
    match items.filter fun b => order a b = .eq, hp, hm with
    | [], _, _ => rfl
    | [b], _, _ => rfl
    | b :: c :: rest, hp, hm =>
      have hb := hm b List.mem_cons_self
      have hc := hm c (List.mem_cons_of_mem _ List.mem_cons_self)
      exact absurd ((TransCmp.congr_left hb).symm.trans hc)
        (List.rel_of_pairwise_cons hp List.mem_cons_self)

end Toolflow.Record
