import Toolflow.Proofs.Directive.Written
import Toolflow.Proofs.Engine.Delivery
import Toolflow.Proofs.Resolution.Envelope

/-!
Two ways of handing the data of a result to a call: by the key under which it is kept, and by a
directive that names the result. Where both arrive they bring the same
(`key_agrees_with_directive`), but a directive does not expire (`expired_key_disagrees`).
-/

namespace Toolflow

open Json Cache Text

namespace Directive

/-- The texts of the directives for the result at a position. -/
def idsText (i : UInt64) : String :=
  "EXTRACT_TRADE_IDS_" ++ toString i.toNat

def recordsText (i : UInt64) : String :=
  "EXTRACT_TRADES_" ++ toString i.toNat

def resultText (i : UInt64) : String :=
  "RESULT_" ++ toString i.toNat

theorem append_toString (lead : String) (n : Nat) :
    lead ++ toString n = String.ofList (lead.toList ++ Nat.toDigits 10 n) := by
  have hn : toString n = String.ofList (Nat.toDigits 10 n) := rfl
  rw [hn, String.ofList_append, String.ofList_toList]

theorem read_idsText (keyPrefix : String) (i : UInt64) :
    read keyPrefix (idsText i) = .ids (.index i.toNat) := by
  have ht : idsText i =
      String.ofList ("EXTRACT_TRADE_IDS_".toList ++ (Source.index i.toNat).chars) :=
    append_toString _ _
  have hf : (Source.index i.toNat).Fits := i.toNat_lt_size
  exact ht ▸ read_extractIds hf

theorem read_recordsText (keyPrefix : String) (i : UInt64) :
    read keyPrefix (recordsText i) = .records (.index i.toNat) := by
  have ht : recordsText i =
      String.ofList ("EXTRACT_TRADES_".toList ++ (Source.index i.toNat).chars) :=
    append_toString _ _
  have hf : (Source.index i.toNat).Fits := i.toNat_lt_size
  exact ht ▸ read_extractRecords hf

theorem read_resultText (keyPrefix : String) (i : UInt64) :
    read keyPrefix (resultText i) = .whole (.index i.toNat) := by
  have hr : read keyPrefix (String.ofList
      ("RESULT_".toList ++ (Nat.toDigits 10 i.toNat ++ dotted []))) = _ :=
    read_result i.toNat_lt_size (by simp [IsPath])
  have hd : dotted [] = [] := rfl
  rw [hd, List.append_nil, ← append_toString] at hr
  exact hr

end Directive

namespace Engine

/-- A call that is given the key of a copy of the data of a result receives for it what the
directives for that result stand for, wherever they stand for anything, if the copy has not expired
when it is looked up. -/
theorem key_agrees_with_directive (e : Engine) (history : History) (i : UInt64) (entry : Entry)
    (item : Item) (s : Session) (name : ToolName) (tool : Tool) (args : Members) (preserve : Bool)
    (argument : String) (hi : history[i.toNat]? = some entry)
    (hd : entry.outcome.data = some item.data) (hk : IsKey e.config.keyPrefix item.key)
    (hf : s.store.find? item.key = some item) (hl : e.LiveFor s args argument item)
    (ht : e.registry.get? name = some tool) (hg : GivenOnce args argument item.key) :
    (e.dispatch name.text args preserve s).2.calls = s.calls ++ [e.callOf tool args s] ∧
    ∃ v, Members.get? (e.callOf tool args s).args argument = some v ∧
      (tool.shape argument = .ids → ∀ x,
        Directive.evaluate history (.read e.config.keyPrefix (Directive.idsText i)) =
          .ok x → v = x) ∧
      (tool.shape argument = .records → ∀ x,
        Directive.evaluate history (.read e.config.keyPrefix (Directive.recordsText i)) =
          .ok x → v = x) ∧
      (tool.shape argument = .raw → ∃ x,
        Directive.evaluate history (.read e.config.keyPrefix (Directive.resultText i)) = .ok x ∧
          x.member? "data" = some v) := by
  have hn : entry.outcome.dataOrNull = item.data := by rw [Outcome.dataOrNull, hd, Option.getD_some]
  have hget := get?_callOf_of_found tool (hasKeyShape_iff.mpr hk) hf hg
  rw [if_pos hl] at hget
  refine ⟨e.calls_dispatch args preserve s ht, _, hget, ?_, ?_, ?_⟩
  · intro hs x hx
    rw [Directive.read_idsText] at hx
    obtain ⟨ids, (hids : Payload.ids? _ = _), rfl⟩ := (Directive.evaluate_ofListing .ids hi).mp hx
    rw [hs, Shape.unwrap, ← hn, hids, Option.elim_some]
  · intro hs x hx
    rw [Directive.read_recordsText] at hx
    obtain ⟨records, (hrecords : Payload.records? _ = _), rfl⟩ :=
      (Directive.evaluate_ofListing .records hi).mp hx
    rw [hs, Shape.unwrap, ← hn, hrecords, Option.elim_some]
  · intro hs
    rw [Directive.read_resultText, hs]
    exact ⟨_, Directive.evaluate_whole hi, entry.outcome.member?_envelope.trans hd⟩

theorem key_agrees_with_directive_rehearsed :
    let e := deliveryEngine "fc_"
    let s := deliverySession "fc_"
    let item := deliveredItem "fc_"
    let history := [Entry.executed .searchTrades [] (.ok item.data)]
    let args := [("tradeIds", .string item.key)]
    IsKey e.config.keyPrefix item.key ∧ s.store.find? item.key = some item ∧
      e.LiveFor s args "tradeIds" item ∧
      GivenOnce args "tradeIds" item.key ∧
      ∃ tool x, e.registry.get? .queryDatabase = some tool ∧
        Directive.evaluate history (.read e.config.keyPrefix (Directive.idsText 0)) = .ok x ∧
        Members.get? (e.callOf tool args s).args "tradeIds" = some x := by
  intro e s item history args
  have hk : IsKey e.config.keyPrefix item.key := hasKeyShape_iff.mp (by decide +kernel)
  have hf : s.store.find? item.key = some item := (retrievable_deliveredItem "fc_").found
  have hl : e.LiveFor s args "tradeIds" item :=
    (retrievable_deliveredItem "fc_").liveAt Nat.zero_lt_one
  have hg : GivenOnce args "tradeIds" item.key := givenOnce_singleton (by decide) item.key
  have hx : Directive.evaluate history (.read e.config.keyPrefix (Directive.idsText 0)) =
      .ok (.array [.string "t1", .string "t2"]) := by
    rw [Directive.read_idsText]
    rfl
  obtain ⟨-, v, hv, hids, -⟩ :=
    key_agrees_with_directive e history 0 _ item s .queryDatabase _ args false "tradeIds" rfl rfl
      hk hf hl rfl hg
  rw [hids rfl _ hx] at hv
  exact ⟨hk, hf, hl, hg, _, _, rfl, hx, hv⟩

/-- A search that finds two trades and deems them many. -/
def tradesSearch : Script where
  name := .searchTrades
  replies := [.give (.ok (.array [.object [("id", .string "t1")], .object [("id", .string "t2")]]))]
  large := some true

/-- An engine with that search, and with a tool that may be given the key of what it finds. -/
def tradesEngine (lifespan : Lifespan) : Engine :=
  rehearsal { lifespan } [tradesSearch, { name := .queryDatabase }]

/-- An item that is still in the store has expired: the call receives no identifiers, where the
directive finds two. -/
theorem expired_key_disagrees :
    let e := tradesEngine (.ofNanos 1)
    let data := .array [.object [("id", .string "t1")], .object [("id", .string "t2")]]
    let item := e.itemNow (.start e.config) (e.nextKey (.start e.config)) data .searchTrades
    let s := (e.keep .searchTrades data (.start e.config)).2
    let args := [("tradeIds", .string item.key)]
    IsKey e.config.keyPrefix item.key ∧ s.store.find? item.key = some item ∧
      GivenOnce args "tradeIds" item.key ∧
      Directive.evaluate [.executed .searchTrades [] (.ok item.data)]
        (.read e.config.keyPrefix (Directive.idsText 0)) =
          .ok (.array [.string "t1", .string "t2"]) ∧
      ∃ tool, e.registry.get? .queryDatabase = some tool ∧ tool.shape "tradeIds" = .ids ∧
        Members.get? (e.callOf tool args s).args "tradeIds" = some (.array []) := by
  intro e data item s args
  have hk : e.isCacheKey item.key = true := by decide +kernel
  have hg : GivenOnce args "tradeIds" item.key := givenOnce_singleton (by decide) item.key
  have hx : Directive.evaluate [.executed .searchTrades [] (.ok item.data)]
      (.read e.config.keyPrefix (Directive.idsText 0)) =
        .ok (.array [.string "t1", .string "t2"]) := by
    rw [Directive.read_idsText]
    rfl
  have hf : s.store.find? item.key = some item := by simp [s, item, itemNow]
  refine ⟨hasKeyShape_iff.mp hk, hf, hg, hx, _, rfl, rfl, ?_⟩
  have he : (e.take item.key s).1 = none := by
    rw [← Option.isNone_iff_eq_none]
    decide +kernel
  have ha : Members.erase args deferArgument = args := rfl
  simp only [callOf, ha, args, materialize, materializeArgument, hk, if_true, he, Option.elim_none]
  rfl

end Engine

end Toolflow
