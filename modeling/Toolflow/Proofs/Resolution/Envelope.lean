import Toolflow.Proofs.Directive.Rendering
import Toolflow.Proofs.Json.Measures
import Toolflow.Proofs.Payload.Path
import Toolflow.Proofs.Resolution.Evaluation

/-!
Paths into an outcome, from its data and from its envelope. Beside the data the envelope has only
parts that no path enters, so a field of the data is found there and nowhere else, and a path from
the data is found with `data` in front of it as well (`data_prefix_redundant`).
-/

namespace Toolflow

open Json

theorem Json.Members.get?_elim_insert {α : Type} (part : Option α) (f : α → Value)
    (members : Members) (key other : String) :
    Members.get? (part.elim members fun x => Members.insert key (f x) members) other =
      if other = key then (part.map f).or (Members.get? members other)
      else Members.get? members other := by
  cases part with
  | none => simp
  | some x => simp

namespace Payload

variable {d v : Value} {path : List String}

theorem lookup_data_ne_ok (hn : d.member? "data" = none) : lookup d ("data" :: path) ≠ .ok v := by
  intro h
  obtain ⟨u, hu, -⟩ | ⟨-, items, -, ha⟩ := lookup_cons_eq_ok h
  · cases hu with
    | key hv =>
      rw [Value.member?, hv] at hn
      cases hn
    | index hi =>
      have hr : Text.readCount? "data".toList = none := by decide +kernel
      rw [hr] at hi
      cases hi
  · obtain h | h := segment_of_arrayProperty? ha <;> exact absurd h (by decide)

end Payload

namespace Outcome

variable {o : Outcome} {key : String} {path : List String} {d v w : Value}

theorem envelope_parts (o : Outcome) (key : String) : o.envelope.member? key =
    if key = "cacheKey" then o.cacheKey.map .string
    else if key = "error" then o.error.map .string
    else if key = "data" then o.data
    else if key = "success" then some (.bool o.success) else none := by
  have hs : Members.get? [("success", Value.bool o.success)] key =
      if key = "success" then some (.bool o.success) else none := by simp
  have he : o.envelope.member? key = _ :=
    Members.get?_elim_insert o.cacheKey .string _ "cacheKey" key
  rw [he, Members.get?_elim_insert o.error .string _ "error",
    Members.get?_elim_insert o.data (fun v => v) _ "data", hs, Option.map_id']
  split
  · next hk => simp [hk]
  · split
    · next hk => simp [hk]
    · split
      · next hk => simp [hk]
      · rfl

theorem member?_envelope (o : Outcome) : o.envelope.member? "data" = o.data := by
  rw [envelope_parts]
  rfl

theorem leads_envelope (hd : o.data = some d) : Payload.Leads o.envelope ["data"] d :=
  .key (o.member?_envelope.trans hd) (.nil d)

theorem eq_of_envelope (hm : o.envelope.member? key = some v) (hk : key ≠ "data") :
    (∃ text, v = .string text) ∨ v = .bool o.success := by
  rw [envelope_parts, if_neg hk] at hm
  split at hm
  · obtain ⟨text, -, rfl⟩ := Option.map_eq_some_iff.mp hm
    exact .inl ⟨text, rfl⟩
  · split at hm
    · obtain ⟨text, -, rfl⟩ := Option.map_eq_some_iff.mp hm
      exact .inl ⟨text, rfl⟩
    · split at hm
      · cases hm
        exact .inr rfl
      · cases hm

theorem lookup_envelope_ne_ok (hk : key ≠ "data") (hp : path ≠ []) :
    Payload.lookup o.envelope (key :: path) ≠ .ok v := by
  intro h
  obtain ⟨segment, rest, rfl⟩ := List.exists_cons_of_ne_nil hp
  obtain ⟨members, he⟩ : ∃ members, o.envelope = .object members := ⟨_, rfl⟩
  cases hm : o.envelope.member? key with
  | none =>
    rw [he, Value.member?] at hm
    rw [he, Payload.lookup, hm] at h
    cases h
  | some u =>
    rw [Payload.lookup_of_member? hm] at h
    obtain ⟨text, rfl⟩ | rfl := eq_of_envelope hm hk
    · cases h
    · cases h

theorem dataOrNull_of_data (hd : o.data = some d) : o.dataOrNull = d := by
  rw [dataOrNull, hd, Option.getD_some]

theorem lookup_data_iff (hd : o.data = some d) (hn : d.member? "data" = none) :
    o.lookup ("data" :: path) = .ok v ↔ Payload.lookup d path = .ok v := by
  have he : Payload.lookup o.envelope ("data" :: path) = Payload.lookup d path :=
    (leads_envelope hd).lookup_append path
  rw [lookup_eq_ok_iff, dataOrNull_of_data hd, he]
  constructor
  · rintro (h | ⟨-, -, h⟩)
    · exact absurd h (Payload.lookup_data_ne_ok hn)
    · exact h
  · intro h
    refine .inr ⟨?_, rfl, h⟩
    cases hl : Payload.lookup d ("data" :: path) with
    | ok u => exact absurd hl (Payload.lookup_data_ne_ok hn)
    | error error => exact ⟨error, rfl⟩

theorem lookup_of_data (hd : o.data = some d) (hl : Payload.lookup d path = .ok v) :
    o.lookup path = .ok v := by
  rw [lookup_eq_ok_iff, dataOrNull_of_data hd]
  exact .inl hl

/-- A field of the data is looked up in the data alone, also where the path fails behind it. -/
theorem lookup_field (hd : o.data = some d) (hn : d.member? "data" = none)
    (hk : d.member? key = some w) :
    o.lookup (key :: path) = Payload.lookup d (key :: path) := by
  cases hl : Payload.lookup d (key :: path) with
  | ok v => exact lookup_of_data hd hl
  | error error =>
    have hne : key ≠ "data" := by
      rintro rfl
      rw [hn] at hk
      cases hk
    have hp : path ≠ [] := by
      rintro rfl
      rw [Payload.lookup_of_member? hk] at hl
      cases hl
    rw [← dataOrNull_of_data hd] at hl
    exact lookup_of_error hl fun v => lookup_envelope_ne_ok hne hp

end Outcome

namespace Directive

variable {keyPrefix : String} {history : History} {source : Source} {i : Nat} {entry : Entry}
  {path : List String} {v : Value}

theorem evaluate_extract (hs : source.Fits) (hp : IsPath path) (hn : path ≠ [])
    (he : history.entryAt source = .ok (i, entry)) :
    (read keyPrefix (sourceText "EXTRACT_" source path)).evaluate history = .ok v ↔
      entry.outcome.lookup path = .ok v := by
  rw [sourceText, read_extract hs hp hn, evaluate_field he, Outcome.lookupResolved_eq_ok]

theorem isPath_data (hp : IsPath path) : IsPath ("data" :: path) :=
  List.forall_mem_cons.mpr ⟨⟨by decide, by decide⟩, hp⟩

end Directive

open Directive

/-- With `data` in front of it a path finds just what it finds in the data, and without it the same,
wherever it is in the data; the directives for the two give the same. A field of the data is never
taken from the envelope. -/
theorem Outcome.data_prefix_redundant {o : Outcome} {d : Value} (hd : o.data = some d)
    (hn : d.member? "data" = none) :
    (∀ path v, o.lookup ("data" :: path) = .ok v ↔ path = [] ∧ v = d ∨
      Payload.lookup d path = .ok v) ∧
    (∀ path v, path ≠ [] → Payload.lookup d path = .ok v → o.lookup path = .ok v) ∧
    (∀ key path, d.member? key ≠ none → o.lookup (key :: path) = Payload.lookup d (key :: path)) ∧
    ∀ keyPrefix (history : History) (source : Source) i entry path v, source.Fits →
      history.entryAt source = .ok (i, entry) →
      entry.outcome = o → IsPath path → path ≠ [] →
      ((read keyPrefix (sourceText "EXTRACT_" source ("data" :: path))).evaluate history = .ok v ↔
        Payload.lookup d path = .ok v) ∧
      (Payload.lookup d path = .ok v →
        (read keyPrefix (sourceText "EXTRACT_" source path)).evaluate history = .ok v) := by
  refine ⟨?_, fun path v _ => lookup_of_data hd, ?_, ?_⟩
  · intro path v
    rw [lookup_data_iff hd hn]
    constructor
    · exact .inr
    · rintro (⟨rfl, rfl⟩ | h)
      · rfl
      · exact h
  · intro key path hk
    obtain ⟨w, hw⟩ := Option.ne_none_iff_exists'.mp hk
    exact lookup_field hd hn hw
  · rintro keyPrefix history source i entry path v hs he rfl hp hne
    rw [evaluate_extract hs (isPath_data hp) (List.cons_ne_nil _ _) he,
      evaluate_extract hs hp hne he]
    exact ⟨lookup_data_iff hd hn, lookup_of_data hd⟩

/-- The data has fields of the names that parts of the envelope have. -/
theorem Outcome.data_prefix_redundant_rehearsed :
    let trades := Value.array [.object [("id", .string "t1")], .string "t2"]
    let d := Value.object [("error", .null), ("success", trades)]
    let o : Outcome := { success := true, data := some d, error := some "late" }
    let history : History := [.executed .searchTrades [] o]
    o.data = some d ∧ d.member? "data" = none ∧
      o.lookup ["data"] = .ok d ∧ o.lookup ["success", "length"] = .ok (.ofCount 2) ∧
      o.lookup ["error", "code"] = .error (.notTraversable "code" .null) ∧
      (read "fc_" "EXTRACT_0.data.success.id").evaluate history =
        .ok (.array [.string "t1", .string "t2"]) ∧
      (read "fc_" "EXTRACT_0.success.id").evaluate history =
        .ok (.array [.string "t1", .string "t2"]) := by
  intro trades d o history
  obtain ⟨hdata, hplain, hfield, hdirective⟩ := data_prefix_redundant (o := o) (d := d) rfl rfl
  have hs : (Source.index 0).Fits := Nat.two_pow_pos 64
  have hp : IsPath ["success", "id"] := by simp [IsPath]
  have hl : Payload.lookup d ["success", "id"] = .ok (.array [.string "t1", .string "t2"]) := rfl
  have hwith : sourceText "EXTRACT_" (.index 0) ["data", "success", "id"] =
      "EXTRACT_0.data.success.id" := by decide +kernel
  have hwithout : sourceText "EXTRACT_" (.index 0) ["success", "id"] = "EXTRACT_0.success.id" := by
    decide +kernel
  obtain ⟨hlong, hshort⟩ :=
    hdirective "fc_" history (.index 0) 0 _ ["success", "id"] _ hs rfl rfl hp (by decide)
  have hcode := hfield "error" ["code"] (Option.some_ne_none _)
  refine ⟨rfl, rfl, (hdata [] d).mpr (.inl ⟨rfl, rfl⟩), hplain _ _ (by decide) rfl, hcode, ?_, ?_⟩
  · rw [← hwith]
    exact hlong.mpr hl
  · rw [← hwithout]
    exact hshort hl

end Toolflow
