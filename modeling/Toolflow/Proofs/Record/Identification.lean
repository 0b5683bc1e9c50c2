import Toolflow.Proofs.Record.Sets
import Toolflow.Proofs.Resolution.Agreement

/-!
Combining records and taking identifiers. An operation commutes with any replacement of items that
keeps their keys (`combineBy_map`), and an identified record has the key of its identifier. So it
does not matter whether records are combined first or their identifiers, in lists or through the
directives for several results. Main statement: `identifiers_of_combined`.
-/

namespace Toolflow.Record

open Json Payload

section

variable {α β : Type} {key other : α → String} {items : List α} {lists : List (List α)}

theorem distinctBy_congr (h : ∀ x ∈ items, key x = other x) :
    distinctBy key items = distinctBy other items := by
  induction items with
  | nil => rfl
  | cons x items ih =>
    obtain ⟨hx, hr⟩ := List.forall_mem_cons.mp h
    rw [distinctBy, distinctBy, ih hr, hx]
    have hf : ∀ y ∈ distinctBy other items, decide (key y ≠ other x) = decide (other y ≠ other x) :=
      fun y hy => by rw [hr y ((distinctBy_sublist other items).mem hy)]
    rw [List.filter_congr hf]

theorem distinctBy_map (key : β → String) (f : α → β) (items : List α) :
    distinctBy key (items.map f) = (distinctBy (key ∘ f) items).map f := by
  induction items with
  | nil => rfl
  | cons x items ih =>
    rw [List.map_cons, distinctBy, distinctBy, ih, List.map_cons, List.filter_map]
    rfl

theorem combineBy_congr (operation : SetOperation)
    (h : ∀ list ∈ lists, ∀ x ∈ list, key x = other x) :
    combineBy key operation lists = combineBy other operation lists := by
  cases operation with
  | merge => rfl
  | unique =>
    refine distinctBy_congr fun x hx => ?_
    obtain ⟨list, hl, hx⟩ := List.mem_flatten.mp hx
    exact h list hl x hx
  | intersect =>
    cases lists with
    | nil => rfl
    | cons first others =>
      obtain ⟨hf, ho⟩ := List.forall_mem_cons.mp h
      have hk (k : String) : others.all (hasKey key k) = others.all (hasKey other k) := by
        rw [Bool.eq_iff_iff, List.all_eq_true, List.all_eq_true]
        refine forall₂_congr fun list hl => ?_
        rw [hasKey_iff, hasKey_iff, List.map_congr_left (ho list hl)]
      rw [combineBy, combineBy, intersectBy, intersectBy, distinctBy_congr hf]
      refine List.filter_congr fun x hx => ?_
      rw [hk, hf x ((distinctBy_sublist other first).mem hx)]

theorem combineBy_map (key : β → String) (f : α → β) (operation : SetOperation)
    (lists : List (List α)) :
    combineBy key operation (lists.map (List.map f)) =
      (combineBy (key ∘ f) operation lists).map f := by
  cases operation with
  | merge => exact List.map_flatten.symm
  | unique => rw [combineBy, combineBy, ← List.map_flatten, distinctBy_map]
  | intersect =>
    cases lists with
    | nil => rfl
    | cons first others =>
      have hk (k : String) : (others.map (List.map f)).all (hasKey key k) =
          others.all (hasKey (key ∘ f) k) := by
        rw [List.all_map]
        congr
        funext list
        exact List.any_map
      rw [combineBy, combineBy, List.map_cons, intersectBy, intersectBy, distinctBy_map,
        List.filter_map]
      simp only [hk]
      rfl

end

variable {lists : List (List Value)} {record : Value}

/-- What identifies a record, or null. -/
def identifierOrNull (record : Value) : Value :=
  (identifier? record).getD .null

theorem identifier?_eq (h : (identifier? record).isSome = true) :
    identifier? record = some (identifierOrNull record) := by
  obtain ⟨identifier, hi⟩ := Option.isSome_iff_exists.mp h
  rw [identifierOrNull, hi, Option.getD_some]

theorem identity_eq (h : (identifier? record).isSome = true) :
    identity record = identityKey (identifierOrNull record) := by
  rw [identity, identifier?_eq h]

theorem filterMap_identifier? {records : List Value}
    (h : ∀ record ∈ records, (identifier? record).isSome = true) :
    records.filterMap identifier? = records.map identifierOrNull := by
  rw [List.filterMap_congr fun record hr => identifier?_eq (h record hr), List.filterMap_eq_map']

theorem combineRecords_identified (operation : SetOperation)
    (h : ∀ list ∈ lists, ∀ record ∈ list, (identifier? record).isSome = true) :
    (combineRecords operation lists).map identifierOrNull =
      combineIds operation (lists.map (List.filterMap identifier?)) := by
  have hk : combineRecords operation lists =
      combineBy (identityKey ∘ identifierOrNull) operation lists :=
    combineBy_congr operation fun list hl record hr => identity_eq (h list hl record hr)
  have hl : lists.map (List.filterMap identifier?) = lists.map (List.map identifierOrNull) :=
    List.map_congr_left fun list hl => filterMap_identifier? (h list hl)
  rw [hk, hl, combineIds, combineBy_map]

theorem identified_of_mem_combineRecords {operation : SetOperation}
    (h : ∀ list ∈ lists, ∀ record ∈ list, (identifier? record).isSome = true) :
    ∀ record ∈ combineRecords operation lists, (identifier? record).isSome = true := by
  intro record hr
  obtain ⟨list, hl, hm⟩ := mem_of_mem_combineBy hr
  exact h list hl record hm

/-- Each record of the combination has its identifier in the combination of the identifiers, at the
same position. -/
theorem map_identifier?_combineRecords (operation : SetOperation)
    (h : ∀ list ∈ lists, ∀ record ∈ list, (identifier? record).isSome = true) :
    (combineRecords operation lists).map identifier? =
      (combineIds operation (lists.map (List.filterMap identifier?))).map some := by
  rw [← combineRecords_identified operation h, List.map_map]
  exact List.map_congr_left fun record hr =>
    identifier?_eq (identified_of_mem_combineRecords h record hr)

theorem ids?_combineRecords (operation : SetOperation)
    (h : ∀ list ∈ lists, ∀ record ∈ list, (identifier? record).isSome = true) :
    ids? (.array (combineRecords operation lists)) =
      some (combineIds operation (lists.map (List.filterMap identifier?))) := by
  rw [← combineRecords_identified operation h,
    ← filterMap_identifier? (identified_of_mem_combineRecords h)]
  rfl

/-- Lists of identifiers at some positions are lists of records there, with every record replaced by
its identifier. -/
theorem forall₂_lists_ids_iff {history : History} {indices : List Nat} {idLists : List (List Value)}
    (h : ∀ n ∈ indices, ∀ entry, history[n]? = some entry → Agree entry.outcome.dataOrNull) :
    List.Forall₂ (history.Lists .ids) indices idLists ↔
      ∃ lists, List.Forall₂ (history.Lists .records) indices lists ∧
        idLists = lists.map (List.filterMap identifier?) := by
  induction indices generalizing idLists with
  | nil => simp
  | cons n indices ih =>
    obtain ⟨hn, hr⟩ := List.forall_mem_cons.mp h
    have hread entry (he : history[n]? = some entry) :
        Listing.ids.read entry.outcome.dataOrNull =
          (Listing.records.read entry.outcome.dataOrNull).map (List.filterMap identifier?) :=
      hn entry he
    simp only [List.forall₂_cons_left_iff, ih hr]
    constructor
    · rintro ⟨_, _, ⟨entry, he, hi⟩, ⟨lists, hl, rfl⟩, rfl⟩
      rw [hread entry he, Option.map_eq_some_iff] at hi
      obtain ⟨records, hi, rfl⟩ := hi
      exact ⟨records :: lists, ⟨records, lists, ⟨entry, he, hi⟩, hl, rfl⟩, rfl⟩
    · rintro ⟨_, ⟨records, lists, ⟨entry, he, hi⟩, hl, rfl⟩, rfl⟩
      refine ⟨records.filterMap identifier?, _, ⟨entry, he, ?_⟩, ⟨lists, hl, rfl⟩, rfl⟩
      rw [hread entry he, hi, Option.map_some]

/-- With an identifier for every record, combining records and then taking identifiers comes to the
same as taking identifiers and then combining them: the same identifiers in the same order. So of
results whose identifiers are those of their records, the directive for the identifiers gives just
the identifiers in what the directive for the records gives. -/
theorem identifiers_of_combined (operation : SetOperation) :
    (∀ lists : List (List Value),
      (∀ list ∈ lists, ∀ record ∈ list, (identifier? record).isSome = true) →
      (combineRecords operation lists).map identifier? =
        (combineIds operation (lists.map (List.filterMap identifier?))).map some) ∧
    ∀ (keyPrefix : String) (history : History) (indices : List Nat), indices ≠ [] →
      (∀ n ∈ indices, n < UInt64.size) →
      (∀ n ∈ indices, ∀ entry, history[n]? = some entry → Agree entry.outcome.dataOrNull ∧
        ∀ records, records? entry.outcome.dataOrNull = some records →
          ∀ record ∈ records, (identifier? record).isSome = true) →
      ∀ ids,
        (Directive.read keyPrefix
          (String.ofList (Directive.setText operation "TRADE_IDS_" indices))).evaluate history =
            .ok (.array ids) ↔
          ∃ records,
            (Directive.read keyPrefix
              (String.ofList (Directive.setText operation "TRADES_" indices))).evaluate history =
                .ok (.array records) ∧
            ids? (.array records) = some ids := by
  refine ⟨fun lists => map_identifier?_combineRecords operation, ?_⟩
  intro keyPrefix history indices hn hi h ids
  have hidentified {lists : List (List Value)}
      (hl : List.Forall₂ (history.Lists .records) indices lists) :
      ∀ list ∈ lists, ∀ record ∈ list, (identifier? record).isSome = true := by
    intro list hm
    obtain ⟨n, hn, entry, he, hr⟩ := exists_of_forall₂ hl hm
    exact (h n hn entry he).2 list hr
  rw [Directive.read_idSet hn hi, Directive.read_recordSet hn hi]
  have hids : Directive.evaluate history (.idSet operation indices) = .ok (.array ids) ↔
      ∃ lists, List.Forall₂ (history.Lists .ids) indices lists ∧
        Value.array ids = .array (combineIds operation lists) :=
    Directive.evaluate_ofListings .ids
  have hrecords (x : Value) : Directive.evaluate history (.recordSet operation indices) = .ok x ↔
      ∃ lists, List.Forall₂ (history.Lists .records) indices lists ∧
        x = .array (combineRecords operation lists) :=
    Directive.evaluate_ofListings .records
  simp only [hids, hrecords, forall₂_lists_ids_iff fun n hm entry he => (h n hm entry he).1]
  constructor
  · rintro ⟨_, ⟨lists, hl, rfl⟩, he⟩
    obtain rfl := Value.array.inj he
    exact ⟨_, ⟨lists, hl, rfl⟩, ids?_combineRecords operation (hidentified hl)⟩
  · rintro ⟨_, ⟨lists, hl, he⟩, hids⟩
    obtain rfl := Value.array.inj he
    rw [ids?_combineRecords operation (hidentified hl)] at hids
    exact ⟨_, ⟨lists, hl, rfl⟩, congrArg Value.array (Option.some.inj hids).symm⟩

/-- Identifiers under all three keys, as numbers and as strings; the records of the first result
stand for those of the second. -/
theorem identifiers_of_combined_rehearsed :
    let one := Value.object [("id", .ofCount 1), ("pair", .string "EURUSD")]
    let first := [one, .object [("tradeId", .string "2")]]
    let second := [Value.object [("trade_id", .string "1")], .object [("id", .ofCount 3)]]
    let history := [Entry.executed .searchTrades [] (.ok (.array first)),
      .executed .searchTrades [] (.ok (.array second))]
    (combineRecords .intersect [first, second]).map identifier? =
        (combineIds .intersect ([first, second].map (List.filterMap identifier?))).map some ∧
      (Directive.read "fc_" "INTERSECT_TRADES_0_1").evaluate history = .ok (.array [one]) ∧
      (Directive.read "fc_" "INTERSECT_TRADE_IDS_0_1").evaluate history =
        .ok (.array [.ofCount 1]) := by
  intro one first second history
  obtain ⟨hlists, hdirectives⟩ := identifiers_of_combined .intersect
  have hf : ∀ record ∈ first, (identifier? record).isSome = true := List.all_eq_true.mp rfl
  have hs : ∀ record ∈ second, (identifier? record).isSome = true := List.all_eq_true.mp rfl
  have hl : ∀ list ∈ [first, second], ∀ record ∈ list, (identifier? record).isSome = true :=
    List.forall_mem_cons.mpr ⟨hf, List.forall_mem_singleton.mpr hs⟩
  have ht : String.ofList (Directive.setText .intersect "TRADES_" [0, 1]) =
      "INTERSECT_TRADES_0_1" := by decide +kernel
  have hi : String.ofList (Directive.setText .intersect "TRADE_IDS_" [0, 1]) =
      "INTERSECT_TRADE_IDS_0_1" := by
    decide +kernel
  have hr : Directive.read "fc_" "INTERSECT_TRADES_0_1" = .recordSet .intersect [0, 1] := by
    decide +kernel
  have hv : (Directive.read "fc_" "INTERSECT_TRADES_0_1").evaluate history =
      .ok (.array [one]) := by
    rw [hr]
    rfl
  have hd := hdirectives "fc_" history [0, 1] (List.cons_ne_nil _ _) (by decide) ?_ [.ofCount 1]
  · rw [ht, hi] at hd
    exact ⟨hlists [first, second] hl, hv, hd.mpr ⟨[one], hv, rfl⟩⟩
  · refine List.forall_mem_cons.mpr ⟨?_, List.forall_mem_singleton.mpr ?_⟩
    · rintro _ ⟨⟩
      refine ⟨rfl, ?_⟩
      rintro _ ⟨⟩
      exact hf
    · rintro _ ⟨⟩
      refine ⟨rfl, ?_⟩
      rintro _ ⟨⟩
      exact hs

end Toolflow.Record
