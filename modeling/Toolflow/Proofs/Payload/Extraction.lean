import Toolflow.Proofs.Directive.Written
import Toolflow.Proofs.Payload.Identifier
import Toolflow.Proofs.Payload.Path
import Toolflow.Proofs.Resolution.Evaluation

/-!
Identifiers read off an array: one for each item that offers any, in order. Only the items whose
identifiers are shadowed go missing (`extracted_ids_iff`).
-/

namespace Toolflow

open Json

namespace Payload

/-- In order, one identifier for each item that offers any, and nothing for the others. -/
inductive Yields : List Value → List Value → Prop
  | nil : Yields [] []
  | take {v identifier : Value} {items ids : List Value} (h : Offers v identifier)
    (hr : Yields items ids) :
      Yields (v :: items) (identifier :: ids)
  | pass {v : Value} {items ids : List Value} (h : ∀ identifier, ¬ Offers v identifier)
    (hr : Yields items ids) :
      Yields (v :: items) ids

variable {v identifier : Value} {items ids : List Value}

theorem Yields.length_le (h : Yields items ids) :
    (items.filterMap identifier?).length ≤ ids.length := by
  induction h with
  | nil => exact Nat.le_refl 0
  | @take v _ items ids _ _ ih =>
    rw [List.filterMap_cons]
    split <;> simp only [List.length_cons] <;> omega
  | @pass v items ids h _ ih =>
    have hn : identifier? v = none := Option.eq_none_iff_forall_ne_some.mpr fun i hi =>
      h i (offers_of_identifier? hi)
    rwa [List.filterMap_cons_none hn]

theorem yields_cons_iff_of_none (h : identifier? v = none) :
    Yields (v :: items) (items.filterMap identifier?) ↔ ¬ Shadowed v ∧
      Yields items (items.filterMap identifier?) := by
  rw [shadowed_iff]
  constructor
  · intro hy
    generalize hids : items.filterMap identifier? = ids at hy
    cases hy with
    | take _ hr =>
      have hl := hr.length_le
      rw [hids, List.length_cons] at hl
      omega
    | pass ho hr => exact ⟨fun ⟨⟨i, hi⟩, _⟩ => ho i hi, hids ▸ hr⟩
  · rintro ⟨hs, hr⟩
    exact .pass (fun i hi => hs ⟨⟨i, hi⟩, h⟩) hr

theorem yields_cons_iff_of_some (h : identifier? v = some identifier) :
    Yields (v :: items) (identifier :: ids) ↔ Yields items ids := by
  have ho := offers_of_identifier? h
  constructor
  · intro hy
    cases hy with
    | take _ hr => exact hr
    | pass hn => exact absurd ho (hn identifier)
  · exact .take ho

theorem yields_filterMap_iff (items : List Value) :
    Yields items (items.filterMap identifier?) ↔ ∀ item ∈ items, ¬ Shadowed item := by
  induction items with
  | nil => exact iff_of_true .nil nofun
  | cons v items ih =>
    rw [List.forall_mem_cons, ← ih]
    cases h : identifier? v with
    | none => rw [List.filterMap_cons_none h, yields_cons_iff_of_none h]
    | some identifier =>
      rw [List.filterMap_cons_some h, yields_cons_iff_of_some h, and_iff_right (not_shadowed h)]

theorem lookup_id (items : List Value) :
    lookup (.array items) ["id"] = .ok (.array (items.filterMap identifier?)) := by
  have hr : Text.readCount? "id".toList = none := by decide +kernel
  rw [lookup, hr]
  rfl

end Payload

namespace Directive

open Payload Text

/-- All that is on offer is extracted just if no item of the array is shadowed. -/
theorem extracted_ids_iff {history : History} {source : Source} {path : List String} {i : Nat}
    {entry : Entry} {items : List Value} (keyPrefix : String) (hs : source.Fits) (hp : IsPath path)
    (he : history.entryAt source = .ok (i, entry)) (hl : entry.outcome.Leads path (.array items)) :
    ∃ ids,
      (read keyPrefix (String.ofList
        ("EXTRACT_".toList ++ (source.chars ++ dotted (path ++ ["id"]))))).evaluate history =
          .ok (.array ids) ∧
      ids? (.array items) = some ids ∧
      (∀ members, Members.get? members "tradeIds" = some (.array items) →
        ids? (.object members) = some ids) ∧
      (Yields items ids ↔ ∀ item ∈ items, ¬ Shadowed item) := by
  have hpath : IsPath (path ++ ["id"]) := by
    rw [IsPath, List.forall_mem_append]
    exact ⟨hp, List.forall_mem_singleton.mpr ⟨by decide, by decide⟩⟩
  have hlookup : entry.outcome.lookup (path ++ ["id"]) =
      .ok (.array (items.filterMap identifier?)) :=
    hl.lookup_append (lookup_id items)
  refine ⟨items.filterMap identifier?, ?_, rfl,
    fun members hm => by rw [ids?, hm], yields_filterMap_iff items⟩
  rw [read_extract hs hpath (List.append_ne_nil_of_right_ne_nil _ (List.cons_ne_nil _ _))]
  exact (evaluate_field he).trans (Outcome.lookupResolved_eq_ok.mpr hlookup)

/-- Every kind of item, and several identifiers on offer. -/
theorem extracted_ids_iff_rehearsed :
    let record := Value.object [("id", .string "t1"), ("trade_id", .ofCount 7)]
    let items := [.string "t0", record, .null, .ofCount 5, .object [("price", .ofCount 3)]]
    let history : History := [.executed .searchTrades [] (.ok (.object [("trades", .array items)]))]
    (read "fc_" "EXTRACT_0.trades.id").evaluate history =
      .ok (.array [.string "t0", .string "t1", .ofCount 5]) ∧
      Yields items [.string "t0", .string "t1", .ofCount 5] := by
  intro record items history
  have hs : (Source.index 0).Fits := Nat.two_pow_pos 64
  have hp : IsPath ["trades"] := List.forall_mem_singleton.mpr ⟨by decide, by decide⟩
  have he : history.entryAt (.index 0) = .ok (0, history[0]) := rfl
  have hl : history[0].outcome.Leads ["trades"] (.array items) := .inl (.key rfl (.nil _))
  have ht : String.ofList ("EXTRACT_".toList ++
      ((Source.index 0).chars ++ dotted (["trades"] ++ ["id"]))) =
      "EXTRACT_0.trades.id" := by decide +kernel
  have hn : ¬ Shadowed .null := by
    rintro ⟨-, members, first, hm, -⟩
    cases hm
  have hprice : ¬ Shadowed (.object [("price", .ofCount 3)]) := by
    rintro ⟨-, members, first, hm, hf, -⟩
    cases hm
    cases hf
  have hshadowed : ∀ item ∈ items, ¬ Shadowed item := by
    simp only [items, List.forall_mem_cons]
    exact ⟨not_shadowed rfl, not_shadowed rfl, hn, not_shadowed rfl, hprice, nofun⟩
  obtain ⟨ids, hv, hids, -, hy⟩ := extracted_ids_iff "fc_" hs hp he hl
  obtain rfl : [.string "t0", .string "t1", .ofCount 5] = ids := Option.some.inj hids
  rw [ht] at hv
  exact ⟨hv, hy.mpr hshadowed⟩

/-- A null under `id` hides what the record holds under `tradeId`. -/
theorem null_shadows :
    let record := Value.object [("id", .null), ("tradeId", .string "t1")]
    let items := [record, .object [("id", .string "t2")]]
    let history : History := [.executed .searchTrades [] (.ok (.object [("trades", .array items)]))]
    (read "fc_" "EXTRACT_0.trades.id").evaluate history = .ok (.array [.string "t2"]) ∧
      ids? (.array items) = some [.string "t2"] ∧ ¬ Yields items [.string "t2"] ∧
      Yields items [.string "t1", .string "t2"] := by
  intro record items history
  have hr : read "fc_" "EXTRACT_0.trades.id" = .field (.index 0) ["trades", "id"] := by
    decide +kernel
  have ho : Offers record (.string "t1") :=
    .member (List.mem_cons_of_mem _ List.mem_cons_self) (v := .string "t1") rfl rfl
  have hrecord : Shadowed record := shadowed_iff.mpr ⟨⟨_, ho⟩, rfl⟩
  refine ⟨by rw [hr]; rfl, rfl, ?_, .take ho (.take (offers_of_identifier? rfl) .nil)⟩
  intro hy
  exact (yields_filterMap_iff items).mp hy record List.mem_cons_self hrecord

end Directive

end Toolflow
