import Toolflow.Proofs.Except
import Toolflow.Resolution.Evaluate

/-!
When a directive evaluates, and to what, in terms of the entries it reads: one statement for each
part of evaluation.
-/

namespace Toolflow

open Json Payload

namespace History

variable {history : History} {source : Source} {i n : Nat} {entry : Entry}

/-- The result at a position carries the list. -/
def Lists (history : History) (l : Listing) (n : Nat) (items : List Value) : Prop :=
  ∃ entry, history[n]? = some entry ∧ l.read entry.outcome.dataOrNull = some items

@[simp]
theorem entryAt_index_eq_ok :
    history.entryAt (.index n) = .ok (i, entry) ↔ i = n ∧ history[n]? = some entry := by
  cases hn : history[n]? with
  | none => simp [entryAt, hn]
  | some found => simp [entryAt, hn, eq_comm]

@[simp]
theorem entryAt_last_eq_ok :
    history.entryAt .last = .ok (i, entry) ↔ history.lastExecuted? = some (i, entry) := by
  cases hl : history.lastExecuted? <;> simp [entryAt, hl]

theorem getElem?_of_entryAt (h : history.entryAt source = .ok (i, entry)) :
    history[i]? = some entry := by
  cases source with
  | index n =>
    obtain ⟨rfl, hn⟩ := entryAt_index_eq_ok.mp h
    exact hn
  | last =>
    obtain ⟨found, hf, he⟩ := Option.map_eq_some_iff.mp (entryAt_last_eq_ok.mp h)
    have hm : found ∈ history.zipIdx := List.mem_reverse.mp (List.mem_of_find?_eq_some hf)
    cases he
    exact List.mem_zipIdx_iff_getElem?.mp hm

end History

namespace Outcome

variable {o : Outcome} {path : List String} {items : List Value} {v : Value} {i : Nat}

@[simp]
theorem lookupResolved_eq_ok : o.lookupResolved path = .ok v ↔ o.lookup path = .ok v := by
  unfold Outcome.lookupResolved
  cases o.lookup path <;> simp [Except.mapError]

@[simp]
theorem arrayAt_eq_ok : o.arrayAt path = .ok items ↔ o.lookup path = .ok (.array items) := by
  rw [← lookupResolved_eq_ok, arrayAt, bind_eq_ok]
  constructor
  · rintro ⟨v, hv, h⟩
    cases v with
    | array listed =>
      cases h
      exact hv
    | null | bool | number | string | object => cases h
  · exact fun h => ⟨_, h, rfl⟩

@[simp]
theorem listAt_eq_ok {l : Listing} :
    o.listAt l i = .ok items ↔ l.read o.dataOrNull = some items := by
  unfold listAt
  cases l.read o.dataOrNull <;> simp

end Outcome

namespace History

variable {history : History} {source : Source} {l : Listing} {n : Nat} {items : List Value}

theorem listAt_eq_ok : history.listAt l source = .ok items ↔
    ∃ i entry, history.entryAt source = .ok (i, entry) ∧
      l.read entry.outcome.dataOrNull = some items := by
  simp [listAt]

@[simp]
theorem listAt_index_eq_ok : history.listAt l (.index n) = .ok items ↔ history.Lists l n items := by
  simp [listAt_eq_ok, Lists]

end History

namespace Directive

/-- The directive for a list of one result. -/
def ofListing : Listing → Source → Directive
  | .ids => .ids
  | .records => .records

/-- The directive for a combination of lists. -/
def ofListings : Listing → Record.SetOperation → List Nat → Directive
  | .ids => .idSet
  | .records => .recordSet

end Directive

def Payload.Listing.combine : Listing → Record.SetOperation → List (List Value) → List Value
  | .ids => Record.combineIds
  | .records => Record.combineRecords

namespace Directive

variable {history : History} {source : Source} {entry : Entry} {x : Value} {n : Nat}
  {indices : List Nat} {operation : Record.SetOperation}

theorem evaluate_field {path : List String} (he : history.entryAt source = .ok (n, entry)) :
    evaluate history (.field source path) = entry.outcome.lookupResolved path := by
  rw [evaluate, he]
  rfl

theorem evaluate_filter {list property : String} {predicate : Record.Predicate} {items : List Value}
    (he : history.entryAt source = .ok (n, entry))
    (hl : entry.outcome.lookup [list] = .ok (.array items)) :
    evaluate history (.filter source list property predicate) =
      .ok (.array (Record.filter items property predicate)) := by
  have ha := Outcome.arrayAt_eq_ok.mpr hl
  rw [evaluate, he]
  dsimp only [bind, Except.bind]
  rw [ha]
  rfl

theorem evaluate_ofListing (l : Listing) (hi : history[n]? = some entry) :
    evaluate history (ofListing l (.index n)) = .ok x ↔
      ∃ items, l.read entry.outcome.dataOrNull = some items ∧ x = .array items := by
  have hv : evaluate history (ofListing l (.index n)) =
      Value.array <$> history.listAt l (.index n) := by
    cases l <;> rfl
  simp [hv, History.Lists, hi, eq_comm (a := x)]

theorem evaluate_ofListings (l : Listing) :
    evaluate history (ofListings l operation indices) = .ok x ↔
      ∃ lists, List.Forall₂ (history.Lists l) indices lists ∧
        x = .array (l.combine operation lists) := by
  have hv : evaluate history (ofListings l operation indices) =
      (fun lists => .array (l.combine operation lists)) <$>
        indices.mapM fun n => history.listAt l (.index n) := by
    cases l <;> rfl
  simp [hv, mapM_eq_ok_iff, eq_comm (a := x)]

theorem evaluate_whole (hi : history[n]? = some entry) :
    evaluate history (.whole (.index n)) = .ok entry.outcome.envelope := by
  simp only [evaluate, History.entryAt, hi]
  rfl

end Directive

end Toolflow
