import Toolflow.Proofs.Json.Measures
import Toolflow.Wire.Batch
import Toolflow.Wire.Config

/-!
Records come back from their wire forms. What an encoder leaves out its decoder takes for absent, so
a record is recovered field by field: each field is found among the members (`field?_of_get?`,
`optional_of_get?`) and the record put together again. Only a payload that is null does not come
back, since null stands for absence there. Main statement: `wire_round_trips`.
-/

namespace Toolflow

open Json

/-- The outcome as it comes back from its wire form: a payload that is null counts as absent. -/
def Outcome.withoutNull (o : Outcome) : Outcome :=
  { o with data := o.data.filter (!·.isNull) }

def Entry.withoutNull (e : Entry) : Entry :=
  { e with outcome := e.outcome.withoutNull }

@[simp]
theorem Outcome.withoutNull_withoutNull (o : Outcome) :
    o.withoutNull.withoutNull = o.withoutNull := by
  simp [withoutNull]

@[simp]
theorem Entry.withoutNull_withoutNull (e : Entry) : e.withoutNull.withoutNull = e.withoutNull := by
  simp [withoutNull]

namespace Wire

section Fields

variable {α : Type} {decode : Decoder α} {encode : α → Value} {members : Members} {name : String}

@[simp]
theorem get?_member? (name : String) (v : Option Value) (key : String) :
    Members.get? (member? name v) key = if key = name then v else none := by
  cases v <;> simp [member?]

theorem field?_of_get? {v : Value} {x : α} (hm : Members.get? members name = some v)
    (hx : decode v = .ok x) :
    field? decode members name = .ok (some x) := by
  rw [field?, hm]
  simp only [hx]
  rfl

theorem nullable_of_isNull {v : Value} (hv : v.isNull = false) :
    nullable decode v = some <$> decode v := by
  cases v with
  | null => cases hv
  | _ => rfl

/-- A field that may be absent comes back if what it holds is never encoded as null. -/
theorem optional_of_get? (hd : ∀ x, decode (encode x) = .ok x) (hn : ∀ x, (encode x).isNull = false)
    {x : Option α}
    (hm : Members.get? members name = x.map encode) : optional decode members name = .ok x := by
  cases x with
  | none =>
    rw [optional, field?, hm]
    rfl
  | some x =>
    have hv : nullable decode (encode x) = .ok (some x) := by
      rw [nullable_of_isNull (hn x), hd]
      rfl
    rw [optional, field?_of_get? hm hv]
    rfl

theorem optional_anything {x : Option Value} (hm : Members.get? members name = x) :
    optional anything members name = .ok (x.filter (!·.isNull)) := by
  cases x with
  | none =>
    rw [optional, field?, hm]
    rfl
  | some v =>
    rw [optional, field?, hm]
    cases v <;> rfl

theorem mapM_encode {xs : List α} (hd : ∀ x ∈ xs, decode (encode x) = .ok x) :
    (xs.map encode).mapM decode = .ok xs := by
  induction xs with
  | nil => rfl
  | cons x xs ih =>
    obtain ⟨hx, hxs⟩ := List.forall_mem_cons.mp hd
    rw [List.map_cons, List.mapM_cons, hx, ih hxs]
    rfl

end Fields

theorem natural_int {expected : Expected} {limit n : Nat} (hn : n < limit)
    (hr : -0x8000000000000000 ≤ (n : Int) ∧ (n : Int) < 0x10000000000000000) :
    natural expected limit (.number (.int n hr)) = .ok n := by
  have hb : 0 ≤ (n : Int) ∧ (n : Int) < limit := by omega
  rw [natural, if_pos hb, Int.toNat_natCast]

theorem natural_ofCount {expected : Expected} {limit n : Nat} (hn : n < limit)
    (hl : limit ≤ UInt64.size) :
    natural expected limit (.ofCount n) = .ok n := by
  have hmin : min n Binary64.countLimit = n := by
    simp only [Binary64.countLimit]
    omega
  have h : natural expected limit (.ofCount n) = .ok (min n Binary64.countLimit) :=
    natural_int (by rwa [hmin]) _
  rwa [hmin] at h

@[simp]
theorem count_encodeCount (n : UInt64) : count (encodeCount n) = .ok n := by
  have h : natural .count UInt64.size (encodeCount n) = .ok n.toNat := natural_int n.toNat_lt_size _
  rw [count, h]
  exact congrArg Except.ok UInt64.ofNat_toNat

@[simp]
theorem boolean_bool (b : Bool) : boolean (.bool b) = .ok b := rfl

@[simp]
theorem string_string (s : String) : string (.string s) = .ok s := rfl

@[simp]
theorem anything_eq (v : Value) : anything v = .ok v := rfl

@[simp]
theorem map_object (members : Members) : map (.object members) = .ok members := rfl

@[simp]
theorem toolName_encodeToolName (name : ToolName) : toolName (encodeToolName name) = .ok name := by
  rw [encodeToolName, toolName, toolNameOf, ToolName.ofText?_text]

@[simp]
theorem expectedField_encodeExpectedField (e : ExpectedField) :
    expectedField (encodeExpectedField e) = .ok e := by
  obtain ⟨field, value⟩ := e
  rfl

theorem rule_object {members : Members} (r : Rule)
    (hvalue : Members.get? members "fieldValue" = r.fieldValue.map encodeExpectedField)
    (hfield : Members.get? members "hasField" = r.hasField.map .string)
    (hmax : Members.get? members "maxCount" = r.maxCount.map encodeCount)
    (hmin : Members.get? members "minCount" = r.minCount.map encodeCount) :
    rule (.object members) = .ok r := by
  rw [rule, record, optional_of_get? expectedField_encodeExpectedField (fun _ => rfl) hvalue,
    optional_of_get? string_string (fun _ => rfl) hfield,
      optional_of_get? count_encodeCount (fun _ => rfl) hmax,
    optional_of_get? count_encodeCount (fun _ => rfl) hmin]
  rfl

theorem rule_encodeRule (r : Rule) : rule (encodeRule r) = .ok r := by
  apply rule_object <;> simp

theorem step_object {members : Members} (s : Step)
    (hargs : Members.get? members "args" = some (.object s.args))
    (hcondition : Members.get? members "condition" = s.condition.map .string)
    (hname : Members.get? members "name" = some (encodeToolName s.name))
    (halias : Members.get? members "toolName" = none)
    (hrule : Members.get? members "validate" = s.rule.map encodeRule) :
    step (.object members) = .ok s := by
  have hn : stepName? members = .ok (some s.name) := by
    rw [stepName?, field?_of_get? hname (toolName_encodeToolName s.name), halias]
    rfl
  rw [step, record, field?_of_get? hargs (map_object s.args),
    optional_of_get? string_string (fun _ => rfl) hcondition, hn,
      optional_of_get? rule_encodeRule (fun _ => rfl) hrule]
  rfl

theorem step_encodeStep (s : Step) : step (encodeStep s) = .ok s := by
  apply step_object <;> simp

theorem batch_object {members : Members} (b : Batch)
    (hdescription : Members.get? members "description" = b.description.map .string)
    (hsteps : Members.get? members "functions" = some (.array (b.steps.map encodeStep))) :
    batch (.object members) = .ok b := by
  have hs : sequence step (.array (b.steps.map encodeStep)) = .ok b.steps := mapM_encode fun s _ =>
    step_encodeStep s
  rw [batch, record, optional_of_get? string_string (fun _ => rfl) hdescription,
    field?_of_get? hsteps hs]
  rfl

theorem batch_encodeBatch (b : Batch) : batch (encodeBatch b) = .ok b := by
  apply batch_object <;> simp

theorem summary_object {members : Members} (s : Summary)
    (hcount : Members.get? members "count" = some (encodeCount s.count))
    (hinfo : Members.get? members "info" = some (.string s.info))
    (hsnippet : Members.get? members "snippet" = some s.snippet) :
    summary (.object members) = .ok s := by
  rw [summary, record, field?_of_get? hcount (count_encodeCount s.count),
    field?_of_get? hinfo (string_string s.info), field?_of_get? hsnippet (anything_eq s.snippet)]
  rfl

theorem summary_encodeSummary (s : Summary) : summary (encodeSummary s) = .ok s :=
  summary_object s rfl rfl rfl

theorem deferral_object {members : Members} (d : Deferral)
    (hkey : Members.get? members "cacheKey" = some (.string d.cacheKey))
    (hcached : Members.get? members "cached" = some (.bool d.cached))
    (hsummary : Members.get? members "summary" = some (encodeSummary d.summary)) :
    deferral (.object members) = .ok d := by
  rw [deferral, record, field?_of_get? hkey (string_string d.cacheKey),
    field?_of_get? hcached (boolean_bool d.cached),
    field?_of_get? hsummary (summary_encodeSummary d.summary)]
  rfl

theorem deferral_encodeDeferral (d : Deferral) : deferral (encodeDeferral d) = .ok d :=
  deferral_object d rfl rfl rfl

/-- A lifespan has less than a second of nanoseconds, so none carry over. -/
theorem lifespan_encodeLifespan (d : Lifespan) : lifespan (encodeLifespan d) = .ok d := by
  obtain ⟨seconds, nanos, hlt⟩ := d
  have hs : seconds.toNat < UInt64.size := seconds.toNat_lt_size
  have hnanos : natural .nanoseconds UInt32.size (.ofCount nanos) = .ok nanos :=
    natural_ofCount (Nat.lt_trans hlt (by decide)) (by decide)
  have hseconds : natural .seconds UInt64.size (.number (.ofUInt64 seconds)) = .ok seconds.toNat :=
    natural_int hs _
  have hd : lifespan (encodeLifespan ⟨seconds, nanos, hlt⟩) = lifespanOf seconds.toNat nanos := by
    rw [lifespan, encodeLifespan, record]
    simp only [List.foldlM_cons, List.foldlM_nil, readLifespanMember, hnanos, hseconds]
    rfl
  have hsum : seconds.toNat + nanos / 1000000000 < UInt64.size := by omega
  have hquot : (seconds.toNat * 1000000000 + nanos) / 1000000000 = seconds.toNat := by omega
  have hrem : (seconds.toNat * 1000000000 + nanos) % 1000000000 = nanos := by omega
  simp only [hd, lifespanOf, if_pos hsum, Lifespan.ofNanos, hquot, hrem, UInt64.ofNat_toNat]

theorem config_object {members : Members} (c : Config)
    (hlead : Members.get? members "cache_key_prefix" = some (.string c.keyPrefix))
    (hlifespan : Members.get? members "cache_ttl" = some (encodeLifespan c.lifespan))
    (hcleanup : Members.get? members "cleanup_on_completion" = some (.bool c.cleanup))
    (hthreshold : Members.get? members "large_result_threshold" =
      some (encodeCount c.largeThreshold))
    (hsteps : Members.get? members "max_steps" = some (encodeCount c.maxSteps))
    (hsnippet : Members.get? members "snippet_len" = some (encodeCount c.snippetLength)) :
    config (.object members) = .ok c := by
  rw [config, record, field?_of_get? hlead (string_string c.keyPrefix),
    field?_of_get? hlifespan (lifespan_encodeLifespan c.lifespan),
      field?_of_get? hcleanup (boolean_bool c.cleanup),
    field?_of_get? hthreshold (count_encodeCount c.largeThreshold),
      field?_of_get? hsteps (count_encodeCount c.maxSteps),
    field?_of_get? hsnippet (count_encodeCount c.snippetLength)]
  rfl

theorem config_encodeConfig (c : Config) : config (encodeConfig c) = .ok c :=
  config_object c rfl rfl rfl rfl rfl rfl

theorem outcome_object {members : Members} (o : Outcome)
    (hkey : Members.get? members "cacheKey" = o.cacheKey.map .string)
    (hdata : Members.get? members "data" = o.data)
    (herror : Members.get? members "error" = o.error.map .string)
    (hsuccess : Members.get? members "success" = some (.bool o.success)) :
    outcome (.object members) = .ok o.withoutNull := by
  rw [outcome, record, optional_of_get? string_string (fun _ => rfl) hkey, optional_anything hdata,
    optional_of_get? string_string (fun _ => rfl) herror,
      field?_of_get? hsuccess (boolean_bool o.success)]
  rfl

theorem outcome_encodeOutcome (o : Outcome) : outcome (encodeOutcome o) = .ok o.withoutNull := by
  apply outcome_object <;> simp

theorem entry_object {members : Members} (e : Entry)
    (hargs : Members.get? members "resolvedArgs" = some (.object e.args))
    (houtcome : Members.get? members "result" = some (encodeOutcome e.outcome))
    (hreason : Members.get? members "skipReason" = e.skipReason.map .string)
    (hskipped : Members.get? members "skipped" = some (.bool e.skipped))
    (hname : Members.get? members "toolName" = some (encodeToolName e.name)) :
    entry (.object members) = .ok e.withoutNull := by
  rw [entry, record, field?_of_get? hargs (map_object e.args),
    field?_of_get? houtcome (outcome_encodeOutcome e.outcome),
      optional_of_get? string_string (fun _ => rfl) hreason,
    field?_of_get? hskipped (boolean_bool e.skipped),
    field?_of_get? hname (toolName_encodeToolName e.name)]
  rfl

theorem entry_encodeEntry (e : Entry) : entry (encodeEntry e) = .ok e.withoutNull := by
  apply entry_object <;> simp

theorem envelope_eq_encodeOutcome (o : Outcome) : o.envelope = encodeOutcome o := by
  obtain ⟨success, data, error, cacheKey⟩ := o
  have hdata : "data" < "success" := by decide +kernel
  have herror : "error" < "success" ∧ ¬ "error" < "data" ∧ "error" ≠ "data" := by decide +kernel
  have hkey : "cacheKey" < "success" ∧ "cacheKey" < "error" ∧
      "cacheKey" < "data" := by decide +kernel
  cases data <;> cases error <;> cases cacheKey <;>
    simp only [Outcome.envelope, encodeOutcome, member?, Members.insert, Option.elim_none,
      Option.elim_some, hdata, herror, hkey, if_true, if_false, Option.map_none, Option.map_some,
      Option.toList_none, Option.toList_some, List.nil_append, List.cons_append, List.map_nil,
      List.map_cons]

/-- Batches, rules, summaries and configurations come back from their wire forms. Outcomes and
entries of the history do but for a payload that is null, so that nothing changes from the second
pass on. And the wire form of an outcome is its envelope. -/
theorem wire_round_trips :
    (∀ b, batch (encodeBatch b) = .ok b) ∧ (∀ r, rule (encodeRule r) = .ok r) ∧
    (∀ d, deferral (encodeDeferral d) = .ok d) ∧ (∀ s, summary (encodeSummary s) = .ok s) ∧
    (∀ c, config (encodeConfig c) = .ok c) ∧
    (∀ o, outcome (encodeOutcome o) = .ok o.withoutNull) ∧
    (∀ e, entry (encodeEntry e) = .ok e.withoutNull) ∧
    (∀ o : Outcome,
      (encodeOutcome <$> outcome (encodeOutcome o)) >>= (encodeOutcome <$> outcome ·) =
        encodeOutcome <$> outcome (encodeOutcome o)) ∧
    (∀ e : Entry,
      (encodeEntry <$> entry (encodeEntry e)) >>= (encodeEntry <$> entry ·) =
        encodeEntry <$> entry (encodeEntry e)) ∧
    ∀ o : Outcome, o.envelope = encodeOutcome o := by
  refine ⟨batch_encodeBatch, rule_encodeRule, deferral_encodeDeferral, summary_encodeSummary,
    config_encodeConfig, outcome_encodeOutcome, entry_encodeEntry, ?_, ?_,
    envelope_eq_encodeOutcome⟩
  · intro o
    rw [outcome_encodeOutcome]
    have h := outcome_encodeOutcome o.withoutNull
    rw [o.withoutNull_withoutNull] at h
    exact congrArg (encodeOutcome <$> ·) h
  · intro e
    rw [entry_encodeEntry]
    have h := entry_encodeEntry e.withoutNull
    rw [e.withoutNull_withoutNull] at h
    exact congrArg (encodeEntry <$> ·) h

end Wire

end Toolflow
