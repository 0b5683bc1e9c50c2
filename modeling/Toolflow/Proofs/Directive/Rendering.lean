import Toolflow.Proofs.Directive.Keys

/-!
Directives written down. Every directive that a text can give has one rendering, filters with a
comparison apart, and the rendering is read as that directive (`read_render?`), whatever text gave
it. Text that begins like no directive and is no cache key is ordinary, and resolution leaves it
alone. Main statement: `directives_round_trip`.
-/

namespace Toolflow

open Text

def Record.Direction.text : Record.Direction → String
  | .ascending => "asc"
  | .descending => "desc"

namespace Directive

/-- A lead, a source, and segments with a dot in front of each. -/
def sourceText (lead : String) (source : Source) (path : List String) : String :=
  String.ofList (lead.toList ++ (source.chars ++ dotted path))

/-- The directive as the grammar writes it, with all numbers in decimal. -/
def render? : Directive → Option String
  | .field source path => some (sourceText "EXTRACT_" source path)
  | .idSet operation indices => some (String.ofList (setText operation "TRADE_IDS_" indices))
  | .recordSet operation indices => some (String.ofList (setText operation "TRADES_" indices))
  | .slice source path start stop =>
    some (sourceText "SLICE_" source (path ++ [toString start, toString stop]))
  | .filter source list property predicate =>
    predicate.text?.map fun value => sourceText "FILTER_" source [list, property, value]
  | .sort source list property direction =>
    some (sourceText "SORT_" source [list, property, direction.text])
  | .whole .last => some "LAST_RESULT"
  | .whole (.index n) => some (sourceText "RESULT_" (.index n) [])
  | .ids source => some (sourceText "EXTRACT_TRADE_IDS_" source [])
  | .records source => some (sourceText "EXTRACT_TRADES_" source [])
  | .cacheKey _ => none
  | .malformed _ => none
  | .literal => none

/-- How texts begin that are no ordinary text. -/
def leads : List String :=
  ["EXTRACT_", "SLICE_", "FILTER_", "SORT_", "LAST_RESULT", "RESULT_"] ++
    ["MERGE_", "UNIQUE_", "INTERSECT_"].flatMap fun operation =>
      [operation ++ "TRADE_IDS_", operation ++ "TRADES_"]

variable {keyPrefix text rendered : String} {d : Directive}

theorem render?_eq_none_iff : d.render? = none ↔
    d = .literal ∨ (∃ key, d = .cacheKey key) ∨ (∃ text, d = .malformed text) ∨
      ∃ source list property comparison operand,
        d = .filter source list property (.compare comparison operand) := by
  cases d with
  | filter source list property predicate =>
    cases predicate <;> simp [render?, Record.Predicate.text?]
  | whole source => cases source <;> simp [render?]
  | _ => simp [render?]

theorem read_render? (hd : d.WellFormed) (h : d.render? = some rendered) :
    read keyPrefix rendered = d := by
  cases d with
  | field source path =>
    obtain rfl := Option.some.inj h
    exact read_extract hd.1 hd.2.1 hd.2.2
  | idSet operation indices =>
    obtain rfl := Option.some.inj h
    exact read_idSet hd.1 hd.2
  | recordSet operation indices =>
    obtain rfl := Option.some.inj h
    exact read_recordSet hd.1 hd.2
  | slice source path start stop =>
    obtain rfl := Option.some.inj h
    exact read_slice hd.1 hd.2.1 hd.2.2.1 hd.2.2.2
  | filter source list property predicate =>
    obtain ⟨value, hv, rfl⟩ := Option.map_eq_some_iff.mp h
    obtain ⟨hn, hr⟩ := hd.2.2 value hv
    exact read_filter hd.1 hd.2.1 hn hr
  | sort source list property direction =>
    obtain rfl := Option.some.inj h
    exact read_sort hd.1 hd.2 (by cases direction <;> decide +kernel)
  | whole source =>
    have hp : IsPath [] := List.forall_mem_nil _
    cases source with
    | index n =>
      obtain rfl := Option.some.inj h
      exact read_result hd hp
    | last =>
      obtain rfl := Option.some.inj h
      exact read_lastResult hp
  | ids source =>
    obtain rfl := Option.some.inj h
    have hr : read keyPrefix (String.ofList ("EXTRACT_TRADE_IDS_".toList ++ source.chars)) =
        .ids source :=
      read_extractIds hd
    rwa [← List.append_nil source.chars] at hr
  | records source =>
    obtain rfl := Option.some.inj h
    have hr : read keyPrefix (String.ofList ("EXTRACT_TRADES_".toList ++ source.chars)) =
        .records source :=
      read_extractRecords hd
    rwa [← List.append_nil source.chars] at hr
  | cacheKey | malformed | literal => cases h

theorem wellFormed_read (h : (read keyPrefix text).render? = some rendered) :
    (read keyPrefix text).WellFormed := by
  by_cases hl : HasLead text
  · obtain hw | hm := wellFormed_or_malformed keyPrefix hl
    · exact hw
    · rw [hm] at h
      cases h
  · rw [read_of_not_hasLead hl] at h
    split at h <;> cases h

theorem hasLead_iff : HasLead text ↔ ∃ lead ∈ leads, lead.toList <+: text.toList := by
  have hp : ∀ lead ∈ productions.map Prod.fst, lead ∈ leads := by decide +kernel
  have hl : ∀ lead ∈ leads, lead ∈ productions.map Prod.fst := by decide +kernel
  constructor
  · rintro ⟨p, hm, h⟩
    exact ⟨p.1, hp p.1 (List.mem_map_of_mem hm), h⟩
  · rintro ⟨lead, hlead, h⟩
    obtain ⟨p, hm, rfl⟩ := List.mem_map.mp (hl lead hlead)
    exact ⟨p, hm, h⟩

theorem read_eq_literal_iff :
    read keyPrefix text = .literal ↔ ¬ Cache.IsKey keyPrefix text ∧
      ∀ lead ∈ leads, ¬ lead.toList <+: text.toList := by
  have hlead : (∀ lead ∈ leads, ¬ lead.toList <+: text.toList) ↔ ¬ HasLead text := by
    simp [hasLead_iff]
  rw [hlead]
  by_cases hl : HasLead text
  · have hn : read keyPrefix text ≠ .literal := by
      intro he
      obtain hw | hm := wellFormed_or_malformed keyPrefix hl
      · rw [he] at hw
        exact hw
      · rw [he] at hm
        cases hm
    exact ⟨fun he => absurd he hn, fun h => absurd hl h.2⟩
  · rw [read_of_not_hasLead hl, ← Cache.hasKeyShape_iff]
    cases Cache.hasKeyShape keyPrefix text <;> simp [hl]

/-- A directive that a text gives is given by its rendering too, under any prefix of keys, so no two
of them share a rendering; only comparisons in filters have none. Ordinary text is exactly what is
no key and begins like no directive, and it stands for itself. -/
theorem directives_round_trip :
    (∀ d : Directive, d.render? = none ↔
      d = .literal ∨ (∃ key, d = .cacheKey key) ∨ (∃ text, d = .malformed text) ∨
        ∃ source list property comparison operand,
          d = .filter source list property (.compare comparison operand)) ∧
    (∀ keyPrefix otherPrefix text rendered, (read keyPrefix text).render? = some rendered →
      read otherPrefix rendered = read keyPrefix text) ∧
    (∀ keyPrefix otherPrefix text other rendered, (read keyPrefix text).render? = some rendered →
      (read otherPrefix other).render? = some rendered →
        read keyPrefix text = read otherPrefix other) ∧
    (∀ keyPrefix text, read keyPrefix text = .literal ↔
      ¬ Cache.IsKey keyPrefix text ∧ ∀ lead ∈ leads, ¬ lead.toList <+: text.toList) ∧
    ∀ keyPrefix text history, read keyPrefix text = .literal →
      Resolution.resolveText keyPrefix history text = (.string text, []) := by
  refine ⟨fun _ => render?_eq_none_iff, ?_, ?_, fun _ _ => read_eq_literal_iff, ?_⟩
  · intro keyPrefix otherPrefix text rendered h
    exact read_render? (wellFormed_read h) h
  · intro keyPrefix otherPrefix text other rendered h h'
    have hl : read keyPrefix rendered = read keyPrefix text := read_render? (wellFormed_read h) h
    have hr : read keyPrefix rendered = read otherPrefix other :=
      read_render? (wellFormed_read h') h'
    exact hl.symm.trans hr
  · intro keyPrefix text history h
    rw [Resolution.resolveText, h]

/-- A plus sign, leading zeros and empty segments are not written again, and the value of a filter
keeps its dots. -/
theorem directives_round_trip_rehearsed :
    (read "fc_" "RESULT_+00..trades.id").render? = some "EXTRACT_0.trades.id" ∧
    read "EXTRACT_" "EXTRACT_0.trades.id" = .field (.index 0) ["trades", "id"] ∧
    (read "fc_" "FILTER_LAST.trades.note.v1.2").render? = some "FILTER_LAST.trades.note.v1.2" ∧
    read "fc_" "fc_barcelona" = .literal ∧
    Resolution.resolveText "fc_" [] "fc_barcelona" = (.string "fc_barcelona", []) := by
  obtain ⟨-, hread, -, -, hliteral⟩ := directives_round_trip
  have hr : read "fc_" "RESULT_+00..trades.id" = .field (.index 0) ["trades", "id"] := by
    decide +kernel
  have hrender : (read "fc_" "RESULT_+00..trades.id").render? = some "EXTRACT_0.trades.id" := by
    decide +kernel
  have hl : read "fc_" "fc_barcelona" = .literal := by decide +kernel
  exact ⟨hrender, hr ▸ hread "fc_" "EXTRACT_" _ _ hrender, by decide +kernel, hl,
    hliteral _ _ [] hl⟩

end Directive

end Toolflow
