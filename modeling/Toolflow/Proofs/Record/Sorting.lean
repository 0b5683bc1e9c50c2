import Toolflow.Proofs.Record.Order

/-!
Sorting in the two directions. Descending order is ascending order of the records read backwards,
read backwards again (`sort_descending`), so ties stay as they came in both; without ties the one is
the reverse of the other. Main statement: `sort_stable`.
-/

namespace Toolflow.Record

open Json

variable {items : List Value} {property : String}

theorem sort_descending (items : List Value) (property : String) :
    sort items property .descending = (sort items.reverse property .ascending).reverse := by
  have hr := (arranges_sort items.reverse property .ascending).reverse
  rw [List.reverse_reverse, ← order_descending property] at hr
  exact (arranges_sort items property .descending).unique hr

theorem sort_reverse
    (h : items.Pairwise fun a b => compare (a.member? property) (b.member? property) ≠ .eq) :
    sort items.reverse property .ascending = sort items property .ascending := by
  have hr : Arranges (Direction.ascending.order property) items
      (sort items.reverse property .ascending) :=
    (arranges_sort items.reverse property .ascending).of_reverse h
  exact hr.unique (arranges_sort items property .ascending)

/-- Ascending, the records are the same ones, none is greater than a later one, and of every record
those that compare equal to it are as they came. Descending is the same read backwards, with the
records given backwards, and if no two records compare equal, it is the reverse of ascending. -/
theorem sort_stable (items : List Value) (property : String) :
    (sort items property .ascending).Perm items ∧
    ((sort items property .ascending).Pairwise fun a b =>
      compare (a.member? property) (b.member? property) ≠ .gt) ∧
    (∀ a : Value,
      ((sort items property .ascending).filter fun b =>
        compare (a.member? property) (b.member? property) = .eq) =
          items.filter fun b => compare (a.member? property) (b.member? property) = .eq) ∧
    sort items property .descending = (sort items.reverse property .ascending).reverse ∧
    ((items.Pairwise fun a b => compare (a.member? property) (b.member? property) ≠ .eq) →
      sort items property .descending = (sort items property .ascending).reverse) := by
  have ha := arranges_sort items property .ascending
  refine ⟨ha.perm, ha.ordered, ha.stable, sort_descending items property, fun h => ?_⟩
  rw [sort_descending, sort_reverse h]

theorem sort_stable_rehearsed :
    let record (amount : Value) := Value.object [("amount", amount)]
    let items := [record (.string "b"), record (.ofCount 10), record .null,
      record (.string "2024-01-15"), record (.bool true)]
    (items.Pairwise fun a b => compare (a.member? "amount") (b.member? "amount") ≠ .eq) ∧
      sort items "amount" .descending = (sort items "amount" .ascending).reverse := by
  intro record items
  have hd : items.Pairwise fun a b => compare (a.member? "amount") (b.member? "amount") ≠ .eq := by
    decide +kernel
  obtain ⟨-, -, -, -, hr⟩ := sort_stable items "amount"
  exact ⟨hd, hr hd⟩

end Toolflow.Record
