import Toolflow.Proofs.Binary64.Decimals
import Toolflow.Proofs.Binary64.Integers
import Toolflow.Proofs.Directive.Written
import Toolflow.Proofs.Resolution.Evaluation

/-!
Filters that ask for an integer. The text of the integer is compared with the value of each item as
a number of the 64-bit format. So the items with that integer are kept and, from 2⁵³ on, those with
an integer that rounds to the same number as well (`filter_integer`).
-/

namespace Toolflow

open Json

namespace Text

theorem mem_toString_int {m : Int} {c : Char} (h : c ∈ (toString m).toList) :
    c = '-' ∨ c.isDigit = true := by
  rw [Number.toList_toString_int, List.mem_append] at h
  rcases h with h | h
  · split at h
    · exact .inl (List.mem_singleton.mp h)
    · cases h
  · exact .inr (isDigit_of_mem_toDigits h)

theorem toString_int_ne_nil (m : Int) : (toString m).toList ≠ [] := by
  rw [Number.toList_toString_int]
  exact List.append_ne_nil_of_right_ne_nil _ Nat.toDigits_ne_nil

theorem trim_toString_int (m : Int) : trim (toString m).toList = (toString m).toList := by
  refine trim_of_not_blank fun c hc => ?_
  rcases mem_toString_int hc with rfl | hd
  · exact isBlank_of_visible (by decide)
  · exact isBlank_of_isDigit hd

theorem map_toLower_toString_int (m : Int) :
    (toString m).toList.map Char.toLower = (toString m).toList := by
  refine map_toLower_of_forall fun c hc => ?_
  rcases mem_toString_int hc with rfl | hd
  · rfl
  · exact toLower_of_isDigit hd

theorem toString_int_ne {m : Int} {text : String} {c : Char} (h : c ∈ text.toList) (hm : c ≠ '-')
    (hd : c.isDigit = false) :
    toString m ≠ text := by
  rintro rfl
  rcases mem_toString_int h with h | h
  · exact hm h
  · exact Bool.false_ne_true (hd.symm.trans h)

end Text

theorem Directive.comparisonLeads_symbol {lead : String × Record.Comparison}
    (h : lead ∈ comparisonLeads) :
    ∃ c ∈ lead.1.toList, c ≠ '-' ∧ c.isDigit = false := by
  have hall : comparisonLeads.all (fun lead =>
      lead.1.toList.any fun c => c != '-' && !c.isDigit) = true := by
    decide +kernel
  have hc := List.all_eq_true.mp hall lead h
  simpa using hc

/-- The text of an integer is compared with, and has no other meaning as a predicate. -/
theorem Directive.readPredicate?_toString (m : Int) :
    readPredicate? (toString m).toList = some (.equals (toString m)) := by
  have hn : comparisonLeads.findSome? (fun lead =>
    (Text.after? lead.1 (toString m).toList).map (lead.2, ·)) = none := by
    rw [List.findSome?_eq_none_iff]
    intro lead hl
    rw [Option.map_eq_none_iff, Option.eq_none_iff_forall_ne_some]
    intro rest hr
    obtain ⟨c, hc, hm, hd⟩ := comparisonLeads_symbol hl
    have hmem : c ∈ (toString m).toList := by
      rw [Text.after?_eq_some.mp hr]
      exact List.mem_append_left rest hc
    exact (Text.mem_toString_int hmem).elim hm fun h => Bool.false_ne_true (hd.symm.trans h)
  have hlow : lowered (toString m).toList = toString m := by
    rw [lowered, Text.map_toLower_toString_int, String.ofList_toList]
  have hwin : toString m ≠ "win" := Text.toString_int_ne (c := 'w') (by decide) (by decide) rfl
  have hloss : toString m ≠ "loss" := Text.toString_int_ne (c := 'l') (by decide) (by decide) rfl
  rw [readPredicate?, hn, hlow, String.ofList_toList]
  simp only [hwin, hloss, if_false]

namespace Payload

theorem looseEqual_toString_iff {n m : Int} (hn : -0x8000000000000000 ≤ n ∧ n < 0x10000000000000000)
    (hm : m.natAbs ≤ 0x10000000000000000) :
    looseEqual (.number (.int n hn)) (.string (toString m)) = true ↔
      Binary64.ofInt n = Binary64.ofInt m := by
  have hv : number? (.string (toString m)) = some (Binary64.ofInt m) := by
    rw [number?, Text.trim_toString_int, Binary64.read?_toString hm]
  have he : (Value.number (.int n hn)).equal (.string (toString m)) = false := rfl
  rw [looseEqual, he, number?, hv, Bool.false_or, Number.toBinary64]
  exact Binary64.near_ofInt_iff (by omega) hm

end Payload

namespace Directive

open Record

variable {history : History} {source : Source} {i : Nat} {entry : Entry} {list property : String}
  {items : List Value} {m : Int}

/-- A filter for an integer keeps the items that it should just if no other integer rounds to the
same number; below 2⁵³ none does. -/
theorem filter_integer (keyPrefix : String) (hs : source.Fits) (hn : IsPath [list, property])
    (hm : -0x8000000000000000 ≤ m ∧ m < 0x10000000000000000)
    (he : history.entryAt source = .ok (i, entry))
    (hl : entry.outcome.lookup [list] = .ok (.array items)) :
    ∃ keep : Value → Bool,
      (read keyPrefix (String.ofList
        ("FILTER_".toList ++ (source.chars ++ Text.dotted [list, property, toString m])))).evaluate
          history = .ok (.array (items.filter keep)) ∧
      ∀ item n h, item.member? property = some (.number (.int n h)) →
        (keep item = true ↔ Binary64.ofInt n = Binary64.ofInt m) ∧
        ((keep item = true ↔ n = m) ↔ n = m ∨ Binary64.ofInt n ≠ Binary64.ofInt m) ∧
        (n.natAbs < Nat.pow 2 53 ∨ m.natAbs < Nat.pow 2 53 → (keep item = true ↔ n = m)) := by
  have hm : m.natAbs ≤ 0x10000000000000000 := by omega
  have hv : toString m ≠ "" := fun h => Text.toString_int_ne_nil m (String.toList_eq_nil_iff.mpr h)
  refine ⟨fun item => (item.member? property).any (Predicate.equals (toString m)).holds, ?_, ?_⟩
  · rw [read_filter hs hn hv (readPredicate?_toString m)]
    exact evaluate_filter he hl
  · intro item n h hitem
    have hk : (item.member? property).any (Predicate.equals (toString m)).holds = true ↔
        Binary64.ofInt n = Binary64.ofInt m := by
      rw [hitem, Option.any_some, Predicate.holds]
      exact Payload.looseEqual_toString_iff h hm
    have hnat : n.natAbs ≤ 0x10000000000000000 := by omega
    refine ⟨hk, ?_, ?_⟩
    · rw [hk]
      by_cases hnm : n = m <;> simp [hnm]
    · exact fun hsmall => hk.trans (Binary64.ofInt_inj hnat hm hsmall)

/-- Of the integers around 2⁵³ that are asked for, each is kept alone. -/
theorem filter_integer_rehearsed :
    let record (n : Nat) := Value.object [("id", .ofCount n)]
    let items := [record 9007199254740991, record 9007199254740992]
    let history : History := [.executed .searchTrades [] (.ok (.object [("trades", .array items)]))]
    (read "fc_" "FILTER_0.trades.id.9007199254740991").evaluate history =
      .ok (.array [record 9007199254740991]) := by
  intro record items history
  have hs : (Source.index 0).Fits := Nat.two_pow_pos 64
  have hn : IsPath ["trades", "id"] := by simp [IsPath]
  have he : history.entryAt (.index 0) = .ok (0, history[0]) := rfl
  have hl : history[0].outcome.lookup ["trades"] = .ok (.array items) := rfl
  obtain ⟨keep, hv, hkeep⟩ := filter_integer (m := 9007199254740991) "fc_" hs hn (by decide) he hl
  have ht : String.ofList ("FILTER_".toList ++ ((Source.index 0).chars ++
      Text.dotted ["trades", "id", toString (9007199254740991 : Int)])) =
        "FILTER_0.trades.id.9007199254740991" := by
    decide +kernel
  have hfirst : keep (record 9007199254740991) = true :=
    ((hkeep _ 9007199254740991 (by decide) rfl).2.2 (.inl (by decide +kernel))).mpr rfl
  have hsecond : ¬ keep (record 9007199254740992) = true := fun h =>
    absurd (((hkeep _ 9007199254740992 (by decide) rfl).2.2 (.inr (by decide +kernel))).mp h)
      (by decide)
  rwa [ht, List.filter_cons_of_pos hfirst, List.filter_cons_of_neg hsecond, List.filter_nil] at hv

/-- From 2⁵³ on the filter keeps an integer that it was not asked for. -/
theorem filter_keeps_rounded :
    let record (n : Nat) := Value.object [("id", .ofCount n)]
    let items := [record 9007199254740992, record 9007199254740993]
    let history : History := [.executed .searchTrades [] (.ok (.object [("trades", .array items)]))]
    (read "fc_" "FILTER_0.trades.id.9007199254740993").evaluate history = .ok (.array items) := by
  intro record items history
  have hr : read "fc_" "FILTER_0.trades.id.9007199254740993" =
      .filter (.index 0) "trades" "id" (.equals "9007199254740993") := by decide +kernel
  have he : history.entryAt (.index 0) = .ok (0, history[0]) := rfl
  have hl : history[0].outcome.lookup ["trades"] = .ok (.array items) := rfl
  have hk : items.all (fun item =>
    (item.member? "id").any (Predicate.equals "9007199254740993").holds) = true := by
    decide +kernel
  rw [hr, evaluate_filter he hl, Record.filter, List.filter_eq_self.mpr (List.all_eq_true.mp hk)]

end Directive

end Toolflow
