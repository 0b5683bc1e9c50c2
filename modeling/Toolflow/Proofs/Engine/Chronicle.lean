import Mathlib.Algebra.Ring.Nat
import Toolflow.Proofs.Engine.Steps

/-!
What the history of a run says about it. Each entry is what its step leaves after the entries before
it (`Leaves`), so a history is a chronicle of the calls that were made (`Reaches.chronicle`). Main
statement: `report_chronicle`.
-/

namespace Toolflow

open Json

namespace Engine

variable (e : Engine)

/-- What a step leaves when it is taken after a history and does not fail. -/
structure Leaves (preserve : Bool) (step : Step) (before : History) (s : Session) (entry : Entry)
    (s' : Session) : Prop where
  skipped_iff : entry.skipped = true ↔ step.Barred before
  /-- Of a step that is passed over the arguments stay as submitted, and nothing happens. -/
  passedOver : entry.skipped = true →
    entry = .passedOver step.name step.args step.skipReason ∧ s' = s
  executed : entry.skipped = false →
    entry = .executed step.name (e.argsFor before step) entry.outcome ∧
    e.dispatch step.name.text (e.argsFor before step) preserve s = (entry.outcome, s')
  /-- The tool of the step receives one call, and no other tool receives any. -/
  called : entry.skipped = false → ∃ tool, e.registry.get? step.name = some tool ∧
    s'.calls = s.calls ++ [e.callOf tool (e.argsFor before step) s]
  accepted : entry.skipped = false →
    entry.outcome.success = true ∧ ∀ rule, step.rule = some rule → rule.accepts entry.outcome = true

/-- The entries of a history are what the first steps leave, each in the session that the one before
it left. -/
structure Chronicle (steps : List Step) (s₀ : Session) (history : History)
    (sessions : Nat → Session) : Prop where
  start : sessions 0 = s₀
  leaves : ∀ i step entry, steps[i]? = some step → history[i]? = some entry →
    e.Leaves (i + 1 < steps.length) step (history.take i) (sessions i) entry (sessions (i + 1))

/-- Number of directives that gave way to an empty array in the step at a position; none if it was
passed over. -/
def warningsAt (steps : List Step) (entries : History) (i : Nat) : Nat :=
  match steps[i]?, entries[i]? with
  | some step, some entry => if entry.skipped then 0 else e.warningsFor (entries.take i) step
  | _, _ => 0

variable {e} {steps : List Step} {s₀ s s' : Session} {history : History} {sessions : Nat → Session}
  {step : Step} {entry : Entry} {preserve : Bool} {n : Nat} {p p' : Progress}

theorem Leaves.name_eq (h : e.Leaves preserve step history s entry s') :
    entry.name = step.name := by
  cases hs : entry.skipped with
  | true => rw [(h.passedOver hs).1, Entry.passedOver]
  | false => rw [(h.executed hs).1, Entry.executed]

theorem Leaves.success (h : e.Leaves preserve step history s entry s') :
    entry.outcome.success = true := by
  cases hs : entry.skipped with
  | true => rw [(h.passedOver hs).1, Entry.passedOver, Outcome.skipped, Outcome.ok]
  | false => exact (h.accepted hs).1

theorem Leaves.calls_prefix (h : e.Leaves preserve step history s entry s') :
    s.calls <+: s'.calls := by
  cases hs : entry.skipped with
  | true =>
    obtain rfl := (h.passedOver hs).2
    exact List.prefix_rfl
  | false =>
    obtain ⟨tool, -, hc⟩ := h.called hs
    exact ⟨_, hc.symm⟩

theorem Taken.leaves (h : e.Taken preserve step p s none p' s')
    (hl : p.last = p.history.lastOutcome?) (hr : ∃ tool, e.registry.get? step.name = some tool) :
    ∃ entry, p'.history = p.history ++ [entry] ∧ e.Leaves preserve step p.history s entry s' := by
  cases h with
  | passedOver h =>
    have hb : step.Barred p.history := (passesOver_eq_true_iff hl step).mp h
    refine ⟨_, rfl, ?_, fun _ => ⟨rfl, rfl⟩, ?_, ?_, ?_⟩
    · simp [Entry.passedOver, hb]
    all_goals simp [Entry.passedOver]
  | executed h hd ho =>
    obtain ⟨tool, ht⟩ := hr
    have hc := e.calls_dispatch (e.argsFor p.history step) preserve s ht
    rw [hd] at hc
    refine ⟨_, rfl, ?_, ?_, fun _ => ⟨rfl, hd⟩, fun _ => ⟨tool, ht, hc⟩,
      fun _ => (StepFailure.of?_eq_none_iff _ _).mp ho⟩
    · simp [Entry.executed, not_barred hl h]
    · simp [Entry.executed]

namespace Chronicle

theorem nil (steps : List Step) (s₀ : Session) : e.Chronicle steps s₀ [] fun _ => s₀ :=
  ⟨rfl, by simp⟩

theorem append (h : e.Chronicle steps s₀ history sessions) (hs : steps[history.length]? = some step)
    (hl : e.Leaves (history.length + 1 < steps.length) step history
      (sessions history.length) entry s') :
    e.Chronicle steps s₀ (history ++ [entry])
      (Function.update sessions (history.length + 1) s') := by
  constructor
  · rw [Function.update_of_ne (by omega), h.start]
  · -- The entries so far have the same entries before them; the new one is the last.
    intro i u x hu hx
    rcases Nat.lt_trichotomy i history.length with hi | rfl | hi
    · rw [List.getElem?_append_left hi] at hx
      rw [Function.update_of_ne (by omega), Function.update_of_ne (by omega),
        List.take_append_of_le_length (by omega)]
      exact h.leaves i u x hu hx
    · obtain rfl : step = u := Option.some.inj (hs.symm.trans hu)
      obtain rfl : entry = x := by simpa using hx
      rw [Function.update_self, Function.update_of_ne (by omega), List.take_left]
      exact hl
    · rw [List.getElem?_eq_none (by simp; omega)] at hx
      cases hx

theorem leaves_getElem (h : e.Chronicle steps s₀ history sessions)
    (hn : history.length ≤ steps.length) {i : Nat}
    (hi : i < history.length) : e.Leaves (i + 1 < steps.length) steps[i] (history.take i)
    (sessions i) history[i]
      (sessions (i + 1)) :=
  h.leaves i _ _ (List.getElem?_eq_getElem (by omega)) (List.getElem?_eq_getElem hi)

theorem map_name (h : e.Chronicle steps s₀ history sessions) (hn : history.length ≤ steps.length) :
    history.map Entry.name = (steps.take history.length).map Step.name := by
  apply List.ext_getElem
  · simp [hn]
  · intro i hi hi'
    simp only [List.length_map, List.length_take] at hi hi'
    have hl := h.leaves_getElem hn hi
    simpa using hl.name_eq

theorem calls_prefix (h : e.Chronicle steps s₀ history sessions)
    (hn : history.length ≤ steps.length) {i j : Nat} (hij : i ≤ j)
    (hj : j ≤ history.length) : (sessions i).calls <+: (sessions j).calls := by
  induction hij with
  | refl => exact List.prefix_rfl
  | @step j hij ih =>
    have hl := h.leaves_getElem hn (i := j) (by omega)
    exact (ih (by omega)).trans hl.calls_prefix

theorem success (h : e.Chronicle steps s₀ history sessions) (hn : history.length ≤ steps.length)
    (hm : entry ∈ history) : entry.outcome.success = true := by
  obtain ⟨i, hi, rfl⟩ := List.mem_iff_getElem.mp hm
  exact (h.leaves_getElem hn hi).success

end Chronicle

namespace Reaches

theorem chronicle (h : e.Reaches steps s₀ n p s)
    (hr : ∀ step ∈ steps, ∃ tool, e.registry.get? step.name = some tool) :
    ∃ sessions, e.Chronicle steps s₀ p.history sessions ∧ sessions n = s := by
  induction h with
  | start => exact ⟨_, .nil steps s₀, rfl⟩
  | @next n p p' s s' step h hs ht ih =>
    obtain ⟨sessions, hc, rfl⟩ := ih
    obtain rfl := h.length_history
    obtain ⟨entry, hp, hl⟩ :=
      (e.takeStep_taken ht).leaves h.last_eq (hr step (List.mem_of_getElem? hs))
    rw [hp]
    exact ⟨_, hc.append hs hl, Function.update_self ..⟩

theorem warningsAt_append (history : History) (entry : Entry) {i : Nat} (hi : i < history.length) :
    e.warningsAt steps (history ++ [entry]) i = e.warningsAt steps history i := by
  simp only [warningsAt, List.getElem?_append_left hi,
    List.take_append_of_le_length (Nat.le_of_lt hi)]

theorem warnings_eq (h : e.Reaches steps s₀ n p s) :
    p.warnings = ((List.range n).map (e.warningsAt steps p.history)).sum := by
  induction h with
  | start => rfl
  | @next n p p' s s' step h hs ht ih =>
    obtain rfl := h.length_history
    have hw : ∀ entry,
        (List.range p.history.length).map (e.warningsAt steps (p.history ++ [entry])) =
          (List.range p.history.length).map (e.warningsAt steps p.history) := fun entry =>
      List.map_congr_left fun i hi => warningsAt_append p.history entry (List.mem_range.mp hi)
    cases e.takeStep_taken ht with
    | passedOver => simp [List.range_succ, hw, ih, warningsAt, hs, Entry.passedOver]
    | executed => simp [List.range_succ, hw, ih, warningsAt, hs, Entry.executed, noted]

end Reaches

/-- A report has an entry for each step, in order, and each entry is what its step leaves after the
entries before it. No other calls are made, and the rest of the report can be read off the
entries. -/
theorem report_chronicle (e : Engine) (batch : Batch) (s s' : Session) (report : Report)
    (h : e.run batch s = (.ok report, s')) :
    report.entries.map Entry.name = batch.steps.map Step.name ∧
    (∃ sessions, e.Chronicle batch.steps s report.entries sessions ∧
      s'.calls = (sessions batch.steps.length).calls) ∧
    report.passedOver = (report.entries.filter Entry.skipped).length ∧
    report.warnings =
      ((List.range batch.steps.length).map (e.warningsAt batch.steps report.entries)).sum ∧
    report.final = report.entries.lastOutcome? := by
  have ha : e.Accepts batch := accepts_of_ok h
  cases run_ends ha h with
  | @completed p t hr =>
    obtain ⟨sessions, hc, hn⟩ := hr.chronicle fun step hs => registered_of_accepts ha hs
    have hl := hr.length_history
    have hm := hc.map_name (Nat.le_of_eq hl)
    rw [hl, List.take_length] at hm
    have hq : t.Quiet (e.finish p t) := finish_quiet p t
    refine ⟨hm, ⟨sessions, hc, ?_⟩, ?_, hr.warnings_eq, hr.last_eq⟩
    · rw [hq.calls, hn]
    · exact List.countP_eq_length_filter

/-- A search, a step that is passed over, and a step with a directive that leads nowhere. -/
def rehearsedBatch : Batch where
  steps := [{ name := .searchTrades, args := [] },
    { name := .queryDatabase, args := [], condition := some "0" },
    { name := .queryDatabase, args := [("value", .string "EXTRACT_0.none")] }]

theorem report_chronicle_rehearsed :
    let e := rehearsal {} [{ name := .searchTrades }, { name := .queryDatabase }]
    ∃ report s', e.run rehearsedBatch (.start {}) = (.ok report, s') ∧
      report.entries.map Entry.name = [.searchTrades, .queryDatabase, .queryDatabase] ∧
      ∃ sessions, e.Chronicle rehearsedBatch.steps (.start {}) report.entries sessions ∧
        s'.calls = (sessions 3).calls := by
  intro e
  have hk : (e.run rehearsedBatch (.start {})).1.isOk = true := by decide +kernel
  rcases h : e.run rehearsedBatch (.start {}) with ⟨_ | report, s'⟩
  · rw [h] at hk
    cases hk
  · obtain ⟨hm, hc, -⟩ := report_chronicle e rehearsedBatch _ s' report h
    exact ⟨report, s', rfl, hm, hc⟩

end Engine

end Toolflow
