import Mathlib.Data.List.Nodup
import Toolflow.Proofs.Json.Numerals
import Toolflow.Proofs.Payload.Identifier
import Toolflow.Proofs.Record.Sets

/-!
Which records count as one. Identifiers and the JSON texts of records without one are kept apart by
nothing but their spelling: a record whose identifier is a string counts as the record that this
string is the text of (`identity_eq_iff`). Where no two records are confused in this way, a union
drops no record that is not represented before it, and only there (`unique_represents_iff`).
-/

namespace Toolflow

open Json Payload

namespace Record

variable {s r : Value}

/-- The records are the same trade: they have identifiers that match, or none and the same text. -/
def Represents (s r : Value) : Prop :=
  match identifier? s, identifier? r with
  | some i, some j => identityKey i = identityKey j
  | none, none => s.text = r.text
  | _, _ => False

/-- The second record has no identifier, and its text is the identifier of the first. -/
def Spells (s r : Value) : Prop :=
  identifier? r = none ∧ (identifier? s).bind Value.string? = some r.text

def Confused (s r : Value) : Prop :=
  Spells s r ∨ Spells r s

instance : DecidableRel Spells := fun s r =>
  decidable_of_iff ((identifier? r).isNone = true ∧
    (identifier? s).bind Value.string? = some r.text)
    (and_congr_left fun _ => Option.isNone_iff_eq_none)

instance : DecidableRel Confused := fun s r => inferInstanceAs (Decidable (Spells s r ∨ Spells r s))

/-- A number is not spelled like a record without an identifier. -/
theorem text_number_ne (h : identifier? r = none) (n : Number) :
    (Value.number n).text ≠ r.text := by
  intro he
  have he : n.chars = r.chars := String.ofList_injective he
  obtain ⟨c, cs, hc, hn⟩ : ∃ c cs, r.chars = c :: cs ∧ isNumeralChar c = false := by
    cases r with
    | null | array | object => exact ⟨_, _, rfl, by decide⟩
    | bool b => cases b <;> exact ⟨_, _, rfl, by decide⟩
    | number | string => cases h
  have hm : isNumeralChar c = true := n.isNumeralChar_of_mem_chars c (he ▸ hc ▸ List.mem_cons_self)
  exact Bool.false_ne_true (hn.symm.trans hm)

theorem identity_eq_iff_spells (hs : (identifier? s).isSome = true) (hr : identifier? r = none) :
    identity s = identity r ↔ Spells s r := by
  obtain ⟨i, hi⟩ := Option.isSome_iff_exists.mp hs
  have ht : identity s = identityKey i := by rw [identity, hi]
  have hn : identity r = r.text := by rw [identity, hr]
  rw [ht, hn, Spells, hi, Option.bind_some, and_iff_right hr]
  obtain ⟨text, rfl⟩ | ⟨n, rfl⟩ := string_or_number hi
  · exact Option.some_inj.symm
  · exact iff_of_false (text_number_ne hr n) nofun

theorem identity_eq_iff : identity s = identity r ↔ Represents s r ∨ Confused s r := by
  rw [Represents]
  cases hs : identifier? s with
  | none =>
    cases hr : identifier? r with
    | none =>
      have hc : ¬ Confused s r := by simp [Confused, Spells, hs, hr]
      rw [or_iff_left hc, identity, identity, hs, hr]
    | some j =>
      have hc : Confused s r ↔ Spells r s := by simp [Confused, Spells, hs, hr]
      rw [false_or, hc, eq_comm, identity_eq_iff_spells (Option.isSome_iff_exists.mpr ⟨j, hr⟩) hs]
  | some i =>
    cases hr : identifier? r with
    | none =>
      have hc : Confused s r ↔ Spells s r := by simp [Confused, Spells, hs, hr]
      rw [false_or, hc, identity_eq_iff_spells (Option.isSome_iff_exists.mpr ⟨i, hs⟩) hr]
    | some j =>
      have hc : ¬ Confused s r := by simp [Confused, Spells, hs, hr]
      rw [or_iff_left hc, identity, identity, hs, hr]

theorem distinctBy_append {α : Type} (key : α → String) (xs ys : List α) :
    distinctBy key (xs ++ ys) =
      distinctBy key xs ++ (distinctBy key ys).filter fun y => key y ∉ xs.map key := by
  induction xs with
  | nil => simp [distinctBy]
  | cons x xs ih =>
    have hf :
        ((distinctBy key ys).filter fun y => key y ∉ xs.map key).filter (fun y => key y ≠ key x) =
          (distinctBy key ys).filter fun y => key y ∉ (x :: xs).map key := by
      rw [List.filter_filter]
      refine List.filter_congr fun y _ => ?_
      simp
    rw [List.cons_append, distinctBy, distinctBy, ih, List.filter_append, hf, List.cons_append]

/-- Nothing more is kept with the record that comes after `before`. -/
def Dropped (before : List Value) (record : Value) : Prop :=
  combineRecords .unique [before ++ [record]] = combineRecords .unique [before]

variable {before after : List Value} {lists : List (List Value)}

theorem combineRecords_unique (records : List Value) :
    combineRecords .unique [records] = distinctBy identity records := by
  rw [combineRecords, combineBy, List.flatten_singleton]

/-- What one more record adds to what is kept. -/
theorem combineRecords_concat (before : List Value) (r : Value) :
    combineRecords .unique [before ++ [r]] =
      combineRecords .unique [before] ++ if identity r ∈ before.map identity then [] else [r] := by
  rw [combineRecords_unique, combineRecords_unique, distinctBy_append]
  by_cases h : identity r ∈ before.map identity
  · rw [if_pos h, distinctBy, distinctBy, List.filter_nil,
      List.filter_cons_of_neg (by simpa using h), List.filter_nil]
  · rw [if_neg h, distinctBy, distinctBy, List.filter_nil,
      List.filter_cons_of_pos (by simpa using h), List.filter_nil]

theorem dropped_iff_mem : Dropped before r ↔ identity r ∈ before.map identity := by
  rw [Dropped, combineRecords_concat, List.append_right_eq_self]
  split
  · next h => exact iff_of_true rfl h
  · next h => exact iff_of_false (List.cons_ne_nil _ _) h

theorem dropped_iff :
    Dropped before r ↔ ∃ s ∈ combineRecords .unique [before], identity s = identity r := by
  rw [dropped_iff_mem, combineRecords_unique, ← mem_keys_distinctBy, List.mem_map]

theorem kept_of_not_dropped (h : ¬ Dropped before r) :
    r ∈ combineRecords .unique [before ++ [r]] := by
  rw [combineRecords_concat, if_neg fun hm => h (dropped_iff_mem.mpr hm)]
  exact List.mem_concat_self

theorem kept_of_append (h : lists.flatten = before ++ after) :
    combineRecords .unique [before] <+: combineRecords .unique lists := by
  have hl : combineRecords .unique lists = distinctBy identity lists.flatten := rfl
  rw [hl, h, combineRecords_unique, distinctBy_append]
  exact List.prefix_append _ _

theorem identified_iff_of_represents (h : Represents s r) :
    (identifier? s).isSome = (identifier? r).isSome := by
  unfold Represents at h
  split at h
  · next hs hr => rw [hs, hr]; rfl
  · next hs hr => rw [hs, hr]
  · cases h

theorem identified_ne_of_confused (h : Confused s r) :
    (identifier? s).isSome ≠ (identifier? r).isSome := by
  have hspells {a b : Value} (h : Spells a b) : (identifier? a).isSome = true ∧
      (identifier? b).isSome = false := by
    obtain ⟨i, hi, -⟩ := Option.bind_eq_some_iff.mp h.2
    rw [hi, h.1]
    exact ⟨rfl, rfl⟩
  intro he
  rcases h with h | h <;> simp [hspells h] at he

theorem identity_faithful_iff : (identity s = identity r → Represents s r) ↔ ¬ Confused s r := by
  rw [identity_eq_iff]
  constructor
  · intro h hc
    exact identified_ne_of_confused hc (identified_iff_of_represents (h (.inr hc)))
  · exact fun hn h => h.resolve_right hn

-- The first record with the identity of two confused ones is kept. Of these two, one is of the
-- other kind: it has an identifier where the first has none, or none where the first has one.
theorem exists_dropped (hs : s ∈ lists.flatten) (hr : r ∈ lists.flatten) (h : Confused s r) :
    ∃ before record after, lists.flatten = before ++ record :: after ∧ Dropped before record ∧
      ∀ s ∈ combineRecords .unique [before], ¬ Represents s record := by
  have he : identity s = identity r := identity_eq_iff.mpr (.inr h)
  have hkept : identity s ∈ (distinctBy identity lists.flatten).map identity :=
    mem_keys_distinctBy.mpr (List.mem_map_of_mem hs)
  obtain ⟨first, hf, hi⟩ := List.mem_map.mp hkept
  have hfirst {x : Value} (hx : x ∈ distinctBy identity lists.flatten)
      (hxs : identity x = identity s) : x = first :=
    List.inj_on_of_nodup_map (nodup_keys_distinctBy identity lists.flatten) hx hf
      (hxs.trans hi.symm)
  obtain ⟨record, hm, hk, hd⟩ : ∃ record ∈ lists.flatten, identity record = identity s ∧
      (identifier? record).isSome ≠ (identifier? first).isSome := by
    by_cases hsf : (identifier? s).isSome = (identifier? first).isSome
    · exact ⟨r, hr, he.symm, fun hrf => identified_ne_of_confused h (hsf.trans hrf.symm)⟩
    · exact ⟨s, hs, rfl, hsf⟩
  obtain ⟨before, after, hsplit⟩ := List.append_of_mem hm
  refine ⟨before, record, after, hsplit, ?_, ?_⟩
  · by_contra hn
    have hsplit : lists.flatten = before ++ [record] ++ after := by rw [hsplit, List.append_cons]
    obtain rfl := hfirst ((kept_of_append hsplit).subset (kept_of_not_dropped hn)) hk
    exact hd rfl
  · intro x hx hrep
    have hxi : identity x = identity record := identity_eq_iff.mpr (.inl hrep)
    obtain rfl := hfirst ((kept_of_append hsplit).subset hx) (hxi.trans hk)
    exact hd (identified_iff_of_represents hrep).symm

/-- Identity tells records apart as it should, and a union drops only what is represented before,
just where no two records are confused. -/
theorem unique_represents_iff (lists : List (List Value)) :
    (∀ before after, lists.flatten = before ++ after →
      combineRecords .unique [before] <+: combineRecords .unique lists) ∧
    ((∀ before record after, lists.flatten = before ++ record :: after → Dropped before record →
        ∃ s ∈ combineRecords .unique [before], Represents s record) ↔
      ∀ s ∈ lists.flatten, ∀ r ∈ lists.flatten, ¬ Confused s r) ∧
    ∀ s r, (identity s = identity r ↔ Represents s r) ↔ ¬ Confused s r := by
  refine ⟨fun before after => kept_of_append, ⟨?_, ?_⟩, fun s r => ?_⟩
  · intro h s hs r hr hc
    obtain ⟨before, record, after, hsplit, hd, hn⟩ := exists_dropped hs hr hc
    obtain ⟨x, hx, hrep⟩ := h before record after hsplit hd
    exact hn x hx hrep
  · intro h before record after hsplit hd
    obtain ⟨s, hs, he⟩ := dropped_iff.mp hd
    have hsm : s ∈ lists.flatten := by
      rw [hsplit]
      exact List.mem_append_left _
        ((distinctBy_sublist identity before).subset (combineRecords_unique before ▸ hs))
    have hrm : record ∈ lists.flatten := by
      rw [hsplit]
      exact List.mem_append_right _ List.mem_cons_self
    exact ⟨s, hs, identity_faithful_iff.mpr (h s hsm record hrm) he⟩
  · rw [← identity_faithful_iff]
    exact ⟨Iff.mp, fun h => ⟨h, fun hr => identity_eq_iff.mpr (.inl hr)⟩⟩

/-- A number and a string as the same identifier, and equal records without one. -/
theorem unique_represents_iff_rehearsed :
    let one := Value.object [("id", .ofCount 1), ("pair", .string "EURUSD")]
    let other := Value.object [("tradeId", .string "1")]
    let lists := [[one, .bool true], [.null, other, .bool true]]
    (identity one = identity other ↔ Represents one other) ∧
      combineRecords .unique lists = [one, .bool true, .null] ∧
      ∃ s ∈ combineRecords .unique [[one, .bool true, .null]], Represents s other := by
  intro one other lists
  obtain ⟨-, hunion, hidentity⟩ := unique_represents_iff lists
  have hn : ∀ s ∈ lists.flatten, ∀ r ∈ lists.flatten, ¬ Confused s r := by decide +kernel
  have hd : Dropped [one, .bool true, .null] other := rfl
  exact ⟨(hidentity one other).mpr (by decide +kernel), rfl,
    hunion.mpr hn [one, .bool true, .null] other [.bool true] rfl hd⟩

/-- A record whose identifier is the string `null` is dropped after a null. -/
theorem dropped_after_null :
    let record := Value.object [("amount", .ofCount 5), ("id", .string "null")]
    combineRecords .unique [[.null], [record]] = [.null] ∧ Dropped [.null] record ∧
      identity record = identity .null ∧
      ∀ s ∈ combineRecords .unique [[.null]], ¬ Represents s record :=
  ⟨rfl, rfl, rfl, List.forall_mem_singleton.mpr id⟩

end Record

end Toolflow
