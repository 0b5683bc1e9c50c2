import Toolflow.Proofs.Engine.Handover
import Toolflow.Proofs.Json.Positions

/-!
Identifiers and records of a payload. Both are looked for along the members `data`, but in a
different order: the records are those of the first array under `trades` on the way, and the
identifiers are taken from `data` before that. Where no identifiers are listed, the identifiers are
those of the records unless `data` beside that array has others (`agree_iff`), and then the
directives for them name different trades. Main statement: `ids_agree_with_records_iff`.
-/

namespace Toolflow

open Json

namespace Payload

/-- The array under a key. -/
def listUnder? (v : Value) (key : String) : Option (List Value) :=
  (v.member? key).bind Value.array?

/-- The second value is found from the first by following the members `data`. -/
inductive Along : Value → Value → Prop
  | refl (v : Value) : Along v v
  | data {v d w : Value} (h : v.member? "data" = some d) (hw : Along d w) : Along v w

/-- No object along `data` lists identifiers. -/
def Unlisted (v : Value) : Prop :=
  ∀ w, Along v w → listUnder? w "tradeIds" = none

/-- The first object along `data` with an array under `trades`, and that array. -/
inductive Holds : Value → Value → List Value → Prop
  | here {v : Value} {trades : List Value} (h : listUnder? v "trades" = some trades) :
    Holds v v trades
  | data {v d w : Value} {trades : List Value} (hn : listUnder? v "trades" = none)
    (hd : v.member? "data" = some d)
      (h : Holds d w trades) : Holds v w trades

/-- The identifiers of a payload are those of its records. -/
def Agree (v : Value) : Prop :=
  ids? v = (records? v).map (List.filterMap identifier?)

/-- Beside the array that the records are in, `data` has no other identifiers. -/
def Uncontested (v : Value) : Prop :=
  ∀ w trades ids, Holds v w trades → (w.member? "data").bind ids? = some ids →
    ids = trades.filterMap identifier?

variable {v w d : Value} {trades : List Value}

theorem unlisted_iff : Unlisted v ↔
    listUnder? v "tradeIds" = none ∧ ∀ d, v.member? "data" = some d → Unlisted d := by
  constructor
  · intro h
    exact ⟨h v (.refl v), fun d hd w hw => h w (.data hd hw)⟩
  · rintro ⟨hv, hd⟩ w hw
    cases hw with
    | refl => exact hv
    | data h hw => exact hd _ h w hw

theorem mem_children_of_member? {key : String} (h : v.member? key = some d) : d ∈ v.children := by
  cases v with
  | null | bool | number | string | array => cases h
  | object members => exact List.mem_map_of_mem (Members.mem_of_get? h)

theorem records?_of_trades (h : listUnder? v "trades" = some trades) :
    records? v = some trades := by
  obtain ⟨u, hu, ha⟩ := Option.bind_eq_some_iff.mp h
  obtain rfl := Value.array?_eq_some_iff.mp ha
  cases v with
  | null | bool | number | string | array => cases hu
  | object members =>
    have hg : Members.get? members "trades" = some (.array trades) := hu
    rw [records?, hg]

/-- Without an array under `trades` the records are those of `data`, or there is one record at
most. -/
theorem records?_of_data (h : listUnder? v "trades" = none) (hd : v.member? "data" = some d) :
    records? v = (records? d).or ((identifier? v).map fun _ => [v]) := by
  cases v with
  | null | bool | number | string | array => cases hd
  | object members =>
    have hg : Members.get? members "data" = some d := hd
    have hr : dataRecords? members = records? d := by rw [dataRecords?_eq, hg, Option.bind_some]
    rw [records?, hr]
    split
    · next trades ht => simp [listUnder?, Value.member?, ht, Value.array?] at h
    · rfl

theorem ids?_of_unlisted (h : listUnder? v "tradeIds" = none) :
    ids? v = ((v.member? "data").bind ids?).or ((records? v).map (List.filterMap identifier?)) := by
  cases v with
  | null | bool | number | string | array => rfl
  | object members =>
    rw [ids?, dataIds?_eq]
    split
    · next ids hi => simp [listUnder?, Value.member?, hi, Value.array?] at h
    · rfl

theorem agree_of_no_data (h : listUnder? v "tradeIds" = none) (hd : v.member? "data" = none) :
    Agree v := by
  rw [Agree, ids?_of_unlisted h, hd, Option.bind_none, Option.none_or]

theorem records?_eq_none_of_data (h : records? v = none) (hd : v.member? "data" = some d) :
    records? d = none := by
  cases ht : listUnder? v "trades" with
  | some trades =>
    rw [records?_of_trades ht] at h
    cases h
  | none =>
    rw [records?_of_data ht hd] at h
    exact (Option.or_eq_none_iff.mp h).1

/-- There are identifiers just where there are records. -/
theorem ids?_eq_none_iff (h : Unlisted v) : ids? v = none ↔ records? v = none := by
  induction v using Value.inductChildren with
  | step v ih =>
  obtain ⟨hv, hd⟩ := unlisted_iff.mp h
  rw [ids?_of_unlisted hv, Option.or_eq_none_iff, Option.map_eq_none_iff]
  refine ⟨And.right, fun hr => ⟨?_, hr⟩⟩
  cases hm : v.member? "data" with
  | none => rfl
  | some d =>
    exact (ih d (mem_children_of_member? hm) (hd d hm)).mpr (records?_eq_none_of_data hr hm)

theorem exists_ids?_iff (h : Unlisted v) :
    (∃ ids, ids? v = some ids) ↔ ∃ rs, records? v = some rs := by
  rw [← Option.ne_none_iff_exists', ← Option.ne_none_iff_exists', ne_eq, ne_eq, ids?_eq_none_iff h]

theorem Holds.records? (h : Holds v w trades) : records? v = some trades := by
  induction h with
  | here ht => exact records?_of_trades ht
  | data hn hd _ ih => rw [records?_of_data hn hd, ih, Option.some_or]

theorem Holds.eq_of_trades {other : List Value} (h : Holds v w other)
    (ht : listUnder? v "trades" = some trades) :
    w = v ∧ other = trades := by
  cases h with
  | here h => exact ⟨rfl, Option.some.inj (h.symm.trans ht)⟩
  | data hn => cases hn.symm.trans ht

theorem holds_iff_of_data (h : listUnder? v "trades" = none) (hd : v.member? "data" = some d) :
    Holds v w trades ↔ Holds d w trades := by
  constructor
  · intro hw
    cases hw with
    | here ht => cases h.symm.trans ht
    | data _ hd' hw =>
      obtain rfl := Option.some.inj (hd'.symm.trans hd)
      exact hw
  · exact .data h hd

/-- Without an array under `trades` it is up to `data`, or there is one record at most. -/
theorem agree_iff_of_data (h : Unlisted v) (ht : listUnder? v "trades" = none)
    (hm : v.member? "data" = some d) :
    Agree v ↔ Agree d := by
  obtain ⟨hv, hd⟩ := unlisted_iff.mp h
  have hi : ids? v = (ids? d).or ((records? v).map (List.filterMap identifier?)) := by
    rw [ids?_of_unlisted hv, hm, Option.bind_some]
  cases hr : records? d with
  | none =>
    have hn : ids? d = none := (ids?_eq_none_iff (hd d hm)).mpr hr
    refine iff_of_true ?_ ?_
    · rw [Agree, hi, hn, Option.none_or]
    · rw [Agree, hn, hr, Option.map_none]
  | some records =>
    obtain ⟨ids, hn⟩ := (exists_ids?_iff (hd d hm)).mpr ⟨records, hr⟩
    rw [Agree, Agree, hi, hn, hr, records?_of_data ht hm, hr, Option.some_or, Option.some_or]

theorem agree_iff (h : Unlisted v) : Agree v ↔ Uncontested v := by
  induction v using Value.inductChildren with
  | step v ih =>
  obtain ⟨hv, hd⟩ := unlisted_iff.mp h
  cases ht : listUnder? v "trades" with
  | some trades =>
    rw [Agree, ids?_of_unlisted hv, records?_of_trades ht, Option.map_some]
    constructor
    · intro ha w other ids hw hi
      obtain ⟨rfl, rfl⟩ := hw.eq_of_trades ht
      rw [hi, Option.some_or] at ha
      exact Option.some.inj ha
    · intro hu
      cases hi : (v.member? "data").bind ids? with
      | none => rw [Option.none_or]
      | some ids => rw [Option.some_or, hu v trades ids (.here ht) hi]
  | none =>
    cases hm : v.member? "data" with
    | none =>
      refine iff_of_true (agree_of_no_data hv hm) ?_
      intro w trades ids hw
      cases hw with
      | here h => cases ht.symm.trans h
      | data _ h => cases hm.symm.trans h
    | some d =>
      have hc : Uncontested v ↔ Uncontested d := by simp only [Uncontested, holds_iff_of_data ht hm]
      rw [agree_iff_of_data h ht hm, hc]
      exact ih d (mem_children_of_member? hm) (hd d hm)

/-- Of a payload in which no identifiers are listed, there are identifiers just where there are
records. They are those of the records just if `data` has no others beside the records, and the
directives for them in a history then agree, too. -/
theorem ids_agree_with_records_iff (v : Value) (h : Unlisted v) :
    (ids? v = none ↔ records? v = none) ∧
    (∀ w trades, Holds v w trades → records? v = some trades) ∧
    (ids? v = (records? v).map (List.filterMap identifier?) ↔ Uncontested v) ∧
    ∀ (keyPrefix : String) (history : History) (i : UInt64) (entry : Entry),
      history[i.toNat]? = some entry → entry.outcome.dataOrNull = v →
      ((∃ x, (Directive.read keyPrefix (Directive.idsText i)).evaluate history = .ok x) ↔
        ∃ x, (Directive.read keyPrefix (Directive.recordsText i)).evaluate history = .ok x) ∧
      ∀ records, (Directive.read keyPrefix (Directive.recordsText i)).evaluate history =
          .ok (.array records) →
        ((Directive.read keyPrefix (Directive.idsText i)).evaluate history =
          .ok (.array (records.filterMap identifier?)) ↔
            Uncontested v) := by
  refine ⟨ids?_eq_none_iff h, fun _ _ => Holds.records?, agree_iff h, ?_⟩
  rintro keyPrefix history i entry hi rfl
  rw [Directive.read_idsText, Directive.read_recordsText]
  have hids (x : Value) : Directive.evaluate history (.ids (.index i.toNat)) = .ok x ↔
      ∃ ids, ids? entry.outcome.dataOrNull = some ids ∧ x = .array ids :=
        Directive.evaluate_ofListing .ids hi
  have hrecords (x : Value) : Directive.evaluate history (.records (.index i.toNat)) = .ok x ↔
      ∃ rs, records? entry.outcome.dataOrNull = some rs ∧ x = .array rs :=
        Directive.evaluate_ofListing .records hi
  simp only [hids, hrecords]
  constructor
  · constructor
    · rintro ⟨_, ids, hids, -⟩
      obtain ⟨rs, hr⟩ := (exists_ids?_iff h).mp ⟨ids, hids⟩
      exact ⟨_, rs, hr, rfl⟩
    · rintro ⟨_, rs, hr, -⟩
      obtain ⟨ids, hids⟩ := (exists_ids?_iff h).mpr ⟨rs, hr⟩
      exact ⟨_, ids, hids, rfl⟩
  · rintro records ⟨rs, hr, he⟩
    obtain rfl := Value.array.inj he
    rw [← agree_iff h, Agree, hr, Option.map_some]
    simp [eq_comm]

theorem ids_agree_with_records_iff_rehearsed :
    let trades := Value.array
      [.object [("id", .string "t1"), ("amount", .ofCount 10)], .object [("note", .null)]]
    let data := Value.object [("data", .object [("tradeId", .string "t1")]), ("trades", trades)]
    let v := Value.object [("data", data), ("trades", .string "none")]
    Unlisted v ∧ Uncontested v ∧
      (Directive.read "fc_" (Directive.recordsText 0)).evaluate
        [.executed .searchTrades [] (.ok v)] = .ok trades ∧
      (Directive.read "fc_" (Directive.idsText 0)).evaluate [.executed .searchTrades [] (.ok v)] =
        .ok (.array [.string "t1"]) := by
  intro trades data v
  have hu : Unlisted v := by
    refine unlisted_iff.mpr ⟨rfl, ?_⟩
    rintro _ ⟨⟩
    refine unlisted_iff.mpr ⟨rfl, ?_⟩
    rintro _ ⟨⟩
    exact unlisted_iff.mpr ⟨rfl, nofun⟩
  obtain ⟨-, -, ha, hd⟩ := ids_agree_with_records_iff v hu
  have hc : Uncontested v := ha.mp rfl
  have hr : (Directive.read "fc_" (Directive.recordsText 0)).evaluate
      [.executed .searchTrades [] (.ok v)] = .ok trades := by
    rw [Directive.read_recordsText]
    rfl
  exact ⟨hu, hc, hr, ((hd "fc_" _ 0 _ rfl rfl).2 _ hr).mpr hc⟩

/-- A payload with an array under `trades` and other trades under `data`: its identifiers are not
those of its records. -/
theorem contested_ids_disagree :
    let trade (id : String) := Value.object [("id", .string id)]
    let v := Value.object [("data", .array [trade "t2"]), ("trades", .array [trade "t1"])]
    Unlisted v ∧ records? v = some [trade "t1"] ∧ ids? v = some [.string "t2"] ∧
      ¬ ids? v = (records? v).map (List.filterMap identifier?) ∧
      (Directive.read "fc_" (Directive.recordsText 0)).evaluate
        [.executed .searchTrades [] (.ok v)] =
        .ok (.array [trade "t1"]) ∧
      (Directive.read "fc_" (Directive.idsText 0)).evaluate [.executed .searchTrades [] (.ok v)] =
        .ok (.array [.string "t2"]) := by
  intro trade v
  have hu : Unlisted v := by
    refine unlisted_iff.mpr ⟨rfl, ?_⟩
    rintro _ ⟨⟩
    exact unlisted_iff.mpr ⟨rfl, nofun⟩
  refine ⟨hu, rfl, rfl, ?_, ?_, ?_⟩
  · intro h
    have ht : some [Value.string "t2"] = some [.string "t1"] := h
    simp at ht
  · rw [Directive.read_recordsText]
    rfl
  · rw [Directive.read_idsText]
    rfl

end Payload

end Toolflow
