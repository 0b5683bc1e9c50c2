import Mathlib.Data.List.Basic
import Toolflow.Record.Sets

/-!
Set operations by the places of the items. Going through a list with the keys seen so far keeps the
first item of each (`filter_distinctBy`), so the union has one item of each key, and the
intersection those of the first list whose keys all others have (`mem_keys_intersectBy`), in
whatever order the others come. Main statement: `combine_as_sets`.
-/

namespace Toolflow.Record

open Json

section

variable {α : Type}

/-- The items that are kept in view of the items before them. -/
def selectBy (keep : List α → α → Bool) (items : List α) : List α :=
  (items.zipIdx.filter fun m => keep (items.take m.2) m.1).map Prod.fst

/-- Operations on lists as on sets of keys, with the first item of each key to represent it. -/
structure CombinesAsSets (key : α → String) (combine : SetOperation → List (List α) → List α) :
    Prop where
  merge : ∀ lists, combine .merge lists = lists.flatten
  unique : ∀ lists, combine .unique lists =
    selectBy (fun before x => key x ∉ before.map key) lists.flatten
  unique_sublist : ∀ lists, (combine .unique lists).Sublist lists.flatten
  unique_nodup : ∀ lists, ((combine .unique lists).map key).Nodup
  mem_unique : ∀ lists k, k ∈ (combine .unique lists).map key ↔ ∃ list ∈ lists, k ∈ list.map key
  unique_unique : ∀ lists, combine .unique [combine .unique lists] = combine .unique lists
  unique_merge : ∀ lists, combine .unique [combine .merge lists] = combine .unique lists
  intersect_nil : combine .intersect [] = []
  intersect_cons : ∀ first others, combine .intersect (first :: others) =
    selectBy (fun before x =>
      key x ∉ before.map key ∧ ∀ other ∈ others, key x ∈ other.map key) first
  intersect_singleton : ∀ list, combine .intersect [list] = combine .unique [list]
  intersect_perm : ∀ lists others, lists.Perm others →
    ∀ k, k ∈ (combine .intersect lists).map key ↔ k ∈ (combine .intersect others).map key

variable {key : α → String} {x : α} {items first : List α}
  {lists others : List (List α)} {k : String}

theorem selectBy_cons (keep : List α → α → Bool) (x : α) (items : List α) :
    selectBy keep (x :: items) =
      (if keep [] x then [x] else []) ++ selectBy (fun before => keep (x :: before)) items := by
  simp only [selectBy, List.zipIdx_cons', List.filter_cons, List.filter_map, List.take_zero]
  split <;> simp [Function.comp_def]

theorem selectBy_filter (keep : List α → α → Bool) (p : α → Bool) (items : List α) :
    (selectBy keep items).filter p = selectBy (fun before x => keep before x && p x) items := by
  simp only [selectBy, List.filter_map, List.filter_filter, Function.comp_def, Bool.and_comm]

theorem distinctBy_sublist (key : α → String) (items : List α) :
    (distinctBy key items).Sublist items := by
  induction items with
  | nil => exact List.Sublist.slnil
  | cons x items ih => exact (List.filter_sublist.trans ih).cons_cons x

theorem mem_of_mem_combineBy {operation : SetOperation} (h : x ∈ combineBy key operation lists) :
    ∃ list ∈ lists, x ∈ list := by
  cases operation with
  | merge => exact List.mem_flatten.mp h
  | unique => exact List.mem_flatten.mp ((distinctBy_sublist key _).mem h)
  | intersect =>
    cases lists with
    | nil => cases h
    | cons first others =>
      have hf : x ∈ distinctBy key first := (List.mem_filter.mp h).1
      exact ⟨first, List.mem_cons_self, (distinctBy_sublist key first).mem hf⟩

/-- What is kept when some keys have been seen already. -/
theorem filter_distinctBy (key : α → String) (seen : List String) (items : List α) :
    ((distinctBy key items).filter fun x => key x ∉ seen) =
      selectBy (fun before x => key x ∉ seen ++ before.map key) items := by
  induction items generalizing seen with
  | nil => rfl
  | cons x items ih =>
    have hs :
        ((distinctBy key items).filter fun y => key y ≠ key x).filter (fun y => key y ∉ seen) =
          (distinctBy key items).filter fun y => key y ∉ seen ++ [key x] := by
      rw [List.filter_filter]
      refine List.filter_congr fun y _ => ?_
      simp
    rw [distinctBy, selectBy_cons, List.filter_cons, hs, ih]
    simp only [List.map_nil, List.append_nil, List.map_cons, List.append_assoc,
      List.singleton_append]
    split <;> rfl

theorem distinctBy_eq (key : α → String) (items : List α) :
    distinctBy key items = selectBy (fun before x => key x ∉ before.map key) items := by
  have h := filter_distinctBy key [] items
  simpa using h

theorem mem_keys_filter (p : String → Bool) :
    k ∈ (items.filter fun x => p (key x)).map key ↔ k ∈ items.map key ∧ p k = true := by
  have hf : (items.map key).filter p = (items.filter fun x => p (key x)).map key := List.filter_map
  rw [← hf, List.mem_filter]

theorem mem_keys_distinctBy : k ∈ (distinctBy key items).map key ↔ k ∈ items.map key := by
  induction items with
  | nil => exact Iff.rfl
  | cons x items ih =>
    rw [distinctBy, List.map_cons, List.map_cons, List.mem_cons, List.mem_cons, ← ih]
    by_cases hk : k = key x
    · exact iff_of_true (.inl hk) (.inl hk)
    · rw [mem_keys_filter fun j => decide (j ≠ key x)]
      simp [hk]

theorem nodup_keys_distinctBy (key : α → String) (items : List α) :
    ((distinctBy key items).map key).Nodup := by
  induction items with
  | nil => exact List.nodup_nil
  | cons x items ih =>
    rw [distinctBy, List.map_cons, List.nodup_cons]
    refine ⟨?_, ih.sublist (List.filter_sublist.map key)⟩
    simp

theorem distinctBy_of_nodup (h : (items.map key).Nodup) : distinctBy key items = items := by
  induction items with
  | nil => rfl
  | cons x items ih =>
    obtain ⟨hx, hn⟩ := List.nodup_cons.mp h
    rw [distinctBy, ih hn, List.filter_eq_self.mpr]
    intro y hy
    refine decide_eq_true fun he => hx ?_
    exact he ▸ List.mem_map_of_mem hy

@[simp]
theorem hasKey_iff : hasKey key k items = true ↔ k ∈ items.map key := by
  simp [hasKey]

theorem intersectBy_cons (key : α → String) (first : List α) (others : List (List α)) :
    intersectBy key (first :: others) =
      selectBy (fun before x =>
        key x ∉ before.map key ∧ ∀ other ∈ others, key x ∈ other.map key) first := by
  have hk (before : List α) (x : α) :
      (decide (key x ∉ before.map key) && others.all (hasKey key (key x))) =
        decide (key x ∉ before.map key ∧ ∀ other ∈ others, key x ∈ other.map key) := by
    rw [Bool.eq_iff_iff, Bool.and_eq_true, decide_eq_true_eq, decide_eq_true_eq, List.all_eq_true]
    simp only [hasKey_iff]
  rw [intersectBy, distinctBy_eq, selectBy_filter]
  simp only [hk]

theorem mem_keys_intersectBy :
    k ∈ (intersectBy key lists).map key ↔ lists ≠ [] ∧ ∀ list ∈ lists, k ∈ list.map key := by
  cases lists with
  | nil => simp [intersectBy]
  | cons first others =>
    rw [intersectBy, mem_keys_filter fun j => others.all (hasKey key j), mem_keys_distinctBy,
      List.all_eq_true, List.forall_mem_cons]
    simp only [hasKey_iff, ne_eq, List.cons_ne_nil, not_false_eq_true, true_and]

theorem combineBy_as_sets (key : α → String) : CombinesAsSets key (combineBy key) where
  merge _ := rfl
  unique lists := distinctBy_eq key lists.flatten
  unique_sublist lists := distinctBy_sublist key lists.flatten
  unique_nodup lists := nodup_keys_distinctBy key lists.flatten
  mem_unique lists k := by
    rw [combineBy, mem_keys_distinctBy, List.map_flatten, ← List.flatMap_def, List.mem_flatMap]
  unique_unique lists := by
    rw [combineBy, combineBy, List.flatten_singleton]
    exact distinctBy_of_nodup (nodup_keys_distinctBy key lists.flatten)
  unique_merge lists := by
    rw [combineBy, combineBy, combineBy, List.flatten_singleton]
  intersect_nil := rfl
  intersect_cons := intersectBy_cons key
  intersect_singleton list := by
    rw [combineBy, combineBy, List.flatten_singleton, intersectBy]
    exact List.filter_eq_self.mpr fun _ _ => rfl
  intersect_perm lists others h k := by
    have hn : lists = [] ↔ others = [] :=
      ⟨fun he => List.nil_perm.mp (he ▸ h), fun he => List.perm_nil.mp (he ▸ h)⟩
    rw [combineBy, combineBy, mem_keys_intersectBy, mem_keys_intersectBy, ne_eq, ne_eq, hn]
    simp only [h.mem_iff]

end

/-- The operations on identifiers and those on records are operations on sets, each by its own
keys. -/
theorem combine_as_sets :
    CombinesAsSets Payload.identityKey combineIds ∧ CombinesAsSets identity combineRecords :=
  ⟨combineBy_as_sets Payload.identityKey, combineBy_as_sets identity⟩

/-- A number and a string that count as one identifier; the first list decides which of them
stays. -/
theorem combine_as_sets_rehearsed :
    let lists := [[Value.ofCount 5, .string "6"], [.string "5", .string "5"]]
    lists.Perm lists.reverse ∧ combineIds .intersect lists = [.ofCount 5] ∧
      combineIds .intersect lists.reverse = [.string "5"] ∧
      ∀ k, k ∈ (combineIds .intersect lists).map Payload.identityKey ↔
        k ∈ (combineIds .intersect lists.reverse).map Payload.identityKey := by
  intro lists
  obtain ⟨hids, -⟩ := combine_as_sets
  have hp : lists.Perm lists.reverse := (List.reverse_perm lists).symm
  have h : combineIds .intersect lists = [.ofCount 5] := rfl
  exact ⟨hp, h, rfl, hids.intersect_perm lists lists.reverse hp⟩

end Toolflow.Record
