import Toolflow.Proofs.Engine.Causality
import Toolflow.Proofs.Engine.Handover
import Toolflow.Proofs.Engine.Last
import Toolflow.Proofs.Resolution.Provenance

/-!
Histories only grow, and what has been resolved stays so. A directive reads a history at its sources
(`persists_evaluate`), a condition at the references in it (`Condition.persists_evaluate?`), and an
entry stays at its position when others are added; what is last stays last if the steps added were
passed over. Main statement: `resolved_persists`.
-/

namespace Toolflow

open Json

namespace History

variable {history later : History}

theorem lastExecuted?_append_of_skipped (h : ∀ entry ∈ later, entry.skipped = true) :
    lastExecuted? (history ++ later) = lastExecuted? history := by
  induction later using List.reverseRecOn with
  | nil => rw [List.append_nil]
  | append_singleton before entry ih =>
    obtain ⟨hb, he⟩ := List.forall_mem_append.mp h
    rw [← List.append_assoc, lastExecuted?_append, if_pos (List.forall_mem_singleton.mp he), ih hb]

theorem entryAt_last_append (h : ∀ entry ∈ later, entry.skipped = true) :
    entryAt (history ++ later) .last = entryAt history .last := by
  rw [entryAt, entryAt, lastExecuted?_append_of_skipped h]

theorem persists_entryAt_index (history later : History) (n : Nat) :
    Persists (entryAt history (.index n)) (entryAt (history ++ later) (.index n)) := by
  intro found h
  obtain ⟨rfl, hn⟩ := entryAt_index_eq_ok.mp h
  refine entryAt_index_eq_ok.mpr ⟨rfl, ?_⟩
  rw [List.getElem?_append_left (List.getElem?_eq_some_iff.mp hn).1, hn]

end History

namespace Directive

/-- The entries of the history that the directive reads. -/
def sources : Directive → List Source
  | .field source _ | .slice source .. | .filter source .. | .sort source .. | .whole source
  | .ids source
  | .records source => [source]
  | .idSet _ indices | .recordSet _ indices => indices.map .index
  | .cacheKey _ | .malformed _ | .literal => []

theorem persists_listAt {history other : History} {source : Source} (l : Payload.Listing)
    (h : Persists (history.entryAt source) (other.entryAt source)) :
    Persists (history.listAt l source) (other.listAt l source) :=
  h.bind fun _ => .refl _

/-- A history matters to a directive at its sources only. -/
theorem persists_evaluate {history other : History} {d : Directive}
    (h : ∀ source ∈ d.sources, Persists (history.entryAt source) (other.entryAt source)) :
    Persists (d.evaluate history) (d.evaluate other) := by
  cases d with
  | field source | slice source | filter source | sort source | whole source =>
    exact (h source (List.mem_singleton_self source)).bind fun _ => .refl _
  | ids source | records source =>
    exact (persists_listAt _ (h source (List.mem_singleton_self source))).bind fun _ => .refl _
  | idSet operation indices | recordSet operation indices =>
    have hi : ∀ n ∈ indices, Persists (history.entryAt (.index n)) (other.entryAt (.index n)) :=
      fun n hn => h (.index n) (List.mem_map_of_mem hn)
    exact (Persists.mapM fun n hn => persists_listAt _ (hi n hn)).bind fun _ => .refl _
  | cacheKey | malformed | literal => exact .refl _

theorem evaluate_append {history later : History} {d : Directive} {v : Value}
    (h : d.evaluate history = .ok v)
    (hl : .last ∉ d.sources ∨ ∀ entry ∈ later, entry.skipped = true) :
    d.evaluate (history ++ later) = .ok v := by
  apply persists_evaluate _ v h
  intro source hs
  cases source with
  | index n => exact History.persists_entryAt_index history later n
  | last =>
    rw [History.entryAt_last_append (hl.resolve_left (not_not_intro hs))]
    exact .refl _

end Directive

namespace Condition

variable (history later : History) (last : Option Outcome)

theorem persists_outcome (r : Reference) :
    Persists (r.outcome history last) (r.outcome (history ++ later) last) := by
  obtain ⟨digits, path⟩ := r
  cases digits with
  | none => exact .refl _
  | some digits =>
    simp only [Reference.outcome]
    cases Text.readCount? digits with
    | none => exact .refl _
    | some n => exact (History.persists_entryAt_index history later n).map _

theorem persists_value (r : Reference) :
    Persists (r.value history last) (r.value (history ++ later) last) :=
  (persists_outcome history later last r).bind fun _ => .refl _

theorem persists_expand (piece : Piece) :
    Persists (piece.expand history last) (piece.expand (history ++ later) last) := by
  cases piece with
  | char => exact .refl _
  | reference r => exact (persists_value history later last r).map _

theorem persists_evaluate? (condition : String) :
    Persists (evaluate? history last condition) (evaluate? (history ++ later) last condition) := by
  have hs : Persists (substitute history last condition)
      (substitute (history ++ later) last condition) :=
    (Persists.mapM fun piece _ => persists_expand history later last piece).map _
  exact hs.bind fun _ => .refl _

end Condition

namespace Engine

theorem Reaches.history_isPrefix {e : Engine} {steps : List Step} {s₀ s t : Session} {m n : Nat}
    {p q : Progress} (h : e.Reaches steps s₀ m p s) (h' : e.Reaches steps s₀ n q t)
    (hmn : m ≤ n) : p.history <+: q.history := by
  induction hmn generalizing q t with
  | refl =>
    obtain ⟨rfl, -⟩ := h.unique h'
    exact List.prefix_rfl
  | step _ ih =>
    cases h' with
    | next h' _ ht => exact (ih h').trans (e.takeStep_taken ht).keeps_history

end Engine

/-- What a directive comes to stays when entries are added to the history, unless it reads the last
one and there is a new one, and so does what a condition comes to; entries of steps that were passed
over do not change what is last. A run only ever adds entries, so what has been resolved once in it
stays for the rest of it. -/
theorem resolved_persists :
    (∀ (history later : History) (d : Directive) v, d.evaluate history = .ok v →
      (.last ∉ d.sources ∨ ∀ entry ∈ later, entry.skipped = true) →
        d.evaluate (history ++ later) = .ok v) ∧
    (∀ (history later : History) last condition b,
      Condition.evaluate? history last condition = .ok b →
      Condition.evaluate? (history ++ later) last condition = .ok b) ∧
    (∀ history later : History, (∀ entry ∈ later, entry.skipped = true) →
      (history ++ later).entryAt .last = history.entryAt .last) ∧
    ∀ (e : Engine) steps s₀ m n p q s t, e.Reaches steps s₀ m p s →
      e.Reaches steps s₀ n q t → m ≤ n →
      (∀ (d : Directive) v, .last ∉ d.sources → d.evaluate p.history = .ok v →
        d.evaluate q.history = .ok v) ∧
      ∀ last condition b, Condition.evaluate? p.history last condition = .ok b →
        Condition.evaluate? q.history last condition = .ok b := by
  refine ⟨fun _ _ _ _ => Directive.evaluate_append, fun history later last condition =>
    Condition.persists_evaluate? history later last condition,
      fun _ _ => History.entryAt_last_append, ?_⟩
  intro e steps s₀ m n p q s t hp hq hmn
  obtain ⟨later, hl⟩ := hp.history_isPrefix hq hmn
  rw [← hl]
  exact ⟨fun d v hd hv => Directive.evaluate_append hv (.inl hd),
    fun last condition => Condition.persists_evaluate? p.history later last condition⟩

/-- A search, and a query for what was found. -/
def searchThenQuery : List Step :=
  [{ name := .searchTrades, args := [] },
   { name := .queryDatabase, args := [("tradeIds", .string "EXTRACT_TRADE_IDS_0")] }]

theorem resolved_persists_rehearsed :
    let e := Engine.tradesEngine (.ofSeconds 1800)
    let found :=
      Outcome.ok (.array [.object [("id", .string "t1")], .object [("id", .string "t2")]])
    let history := [Entry.executed .searchTrades [] found]
    let later := [Entry.passedOver .queryDatabase [] "not needed"]
    let condition := "RESULT_0.length > 1"
    Directive.evaluate (history ++ later) (.slice .last [] 1 2) =
      .ok (.array [.object [("id", .string "t2")]]) ∧
      Condition.evaluate? (history ++ later) none condition = .ok true ∧
      ∃ p q s t, e.Reaches searchThenQuery (.start {}) 1 p s ∧
        e.Reaches searchThenQuery (.start {}) 2 q t ∧
        Directive.evaluate q.history (.idSet .unique [0, 0]) =
          .ok (.array [.string "t1", .string "t2"]) := by
  intro e found history later condition
  obtain ⟨hd, hc, -, hr⟩ := resolved_persists
  have hp : e.Reaches searchThenQuery (.start {}) 1 _ _ := .next .start rfl rfl
  have hq : e.Reaches searchThenQuery (.start {}) 2 _ _ := .next hp rfl rfl
  have hl : ∀ entry ∈ later, entry.skipped = true := by decide
  -- A condition is cut into pieces by well-founded recursion, which only the kernel unfolds.
  have ht : (Condition.evaluate? history none condition).toOption = some true := by decide +kernel
  have hb : Condition.evaluate? history none condition = .ok true := by
    cases h : Condition.evaluate? history none condition with
    | ok b =>
      rw [h] at ht
      exact congrArg _ (Option.some.inj ht)
    | error =>
      rw [h] at ht
      cases ht
  exact ⟨hd history later _ _ rfl (.inr hl), hc history later none condition true hb, _,
    _, _, _, hp, hq,
    (hr e searchThenQuery (.start {}) 1 2 _ _ _ _ hp hq (by decide)).1 _ _ (by decide) rfl⟩

end Toolflow
