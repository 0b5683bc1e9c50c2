import Toolflow.Proofs.Calendar.Timestamp
import Toolflow.Proofs.Record.Order

/-!
Columns of dates. Two timestamps compare as the instants that they stand for, each in its own
notation, so a column of them is put in the order of time. Main statement: `timestamps_in_order`.
-/

namespace Toolflow.Record

open Json Calendar Std

theorem compare_texts (s t : Timestamp) :
    compare (some (.string s.text)) (some (.string t.text)) = Ord.compare s.instant t.instant := by
  obtain ⟨x, hx, hs, hxn⟩ := read?_text s
  obtain ⟨y, hy, ht, hyn⟩ := read?_text t
  have hc : compare (some (.string s.text)) (some (.string t.text)) =
      compareStrings s.text t.text := rfl
  rw [hc, compareStrings, hx, hy, ← hs, ← ht]
  exact Moment.compare_eq hxn hyn

/-- Every timestamp is read, as the instant that it stands for, and two of them compare as these
instants. So records with timestamps under a property are sorted by instant, those of the same
instant as they came. -/
theorem timestamps_in_order :
    (∀ s : Timestamp, ∃ m, Moment.read? s.text = some m ∧ m.epochNanos = s.instant) ∧
    (∀ s t : Timestamp, compare (some (.string s.text))
      (some (.string t.text)) = Ord.compare s.instant t.instant) ∧
    ∀ (direction : Direction) property (items : List Value) (stamp : Value → Timestamp),
      (∀ item ∈ items, item.member? property = some (.string (stamp item).text)) →
      Arranges (fun a b => direction.apply (Ord.compare (stamp a).instant (stamp b).instant)) items
        (sort items property direction) := by
  refine ⟨?_, compare_texts, ?_⟩
  · intro s
    obtain ⟨m, hm, he, -⟩ := read?_text s
    exact ⟨m, hm, he⟩
  · intro direction property items stamp hstamp
    have hi : TransCmp fun a b => Ord.compare (stamp a).instant (stamp b).instant :=
      inferInstanceAs (TransCmp (compareOn fun item => (stamp item).instant))
    have hd := direction.transCmp fun a b => Ord.compare (stamp a).instant (stamp b).instant
    refine (arranges_sort items property direction).congr fun a ha b hb => ?_
    rw [Direction.order, hstamp a ha, hstamp b hb, compare_texts]

/-- An hour behind universal time it is still the old year. -/
theorem timestamps_in_order_rehearsed :
    let newYear : Day := ⟨2024, 1, 1, by decide, by decide, by decide, by decide, by decide⟩
    let eve : Day := ⟨2023, 12, 31, by decide, by decide, by decide, by decide, by decide⟩
    let time : Time := ⟨23, 30, 0, 1, 5, by decide, by decide, by decide, by decide, by decide⟩
    let midnight := Timestamp.day newYear
    let later := Timestamp.zoned eve 'T' (.inl rfl) time (.offset true 1 0 (by decide) (by decide))
    let record (s : Timestamp) := Value.object [("at", .string s.text)]
    let stamp (v : Value) := if (v.member? "at").bind Value.string? = some midnight.text then
      midnight else later
    midnight.text = "2024-01-01" ∧ later.text = "2023-12-31T23:30:00.5-01:00" ∧
      compare (some (.string "2024-01-01")) (some (.string "2023-12-31T23:30:00.5-01:00")) = .lt ∧
      (∀ item ∈ [record later, record midnight],
        item.member? "at" = some (.string (stamp item).text)) ∧
      Arranges (fun a b => Ord.compare (stamp a).instant (stamp b).instant)
        [record later, record midnight]
        (sort [record later, record midnight] "at" .ascending) := by
  intro newYear eve time midnight later record stamp
  obtain ⟨-, hcompare, hsort⟩ := timestamps_in_order
  have hmidnight : midnight.text = "2024-01-01" := by decide +kernel
  have hlater : later.text = "2023-12-31T23:30:00.5-01:00" := by decide +kernel
  have hdays : (newYear.number : Int) = eve.number + 1 := by
    have hn := newYear.dayNumber_date
    have he := eve.dayNumber_date
    have hd : newYear.date.dayNumber = eve.date.dayNumber + 1 := by decide +kernel
    omega
  have hlt : midnight.instant < later.instant := by
    have ht : time.nanos = 84600500000000 := by decide +kernel
    simp only [midnight, later, Timestamp.instant, Day.start, hdays, ht, Zone.minutes, if_true]
    omega
  have hstamp : ∀ item ∈ [record later, record midnight], item.member? "at" =
      some (.string (stamp item).text) := by
    have hne : ¬ some later.text = some midnight.text := by
      rw [hlater, hmidnight]
      decide
    have hfirst : stamp (record later) = later := if_neg hne
    have hsecond : stamp (record midnight) = midnight := if_pos rfl
    rw [List.forall_mem_cons, List.forall_mem_singleton, hfirst, hsecond]
    exact ⟨rfl, rfl⟩
  have hc := hcompare midnight later
  rw [hmidnight, hlater, compare_lt_iff_lt.mpr hlt] at hc
  exact ⟨hmidnight, hlater, hc, hstamp, hsort .ascending "at" _ stamp hstamp⟩

end Toolflow.Record
