import Toolflow.Proofs.Directive.WellFormed
import Toolflow.Resolution.Arguments

/-!
Cache keys among the arguments of a step. Productions are tried before keys, so a key is left alone
exactly if the lead of no production begins the prefix that keys have (`resolveText_key_iff`).
Otherwise it reads as a directive, and there is nothing yet that a directive could read when the
history is empty.
-/

namespace Toolflow

open Text

namespace Cache

/-- A key as one is made under a prefix: decimal digits, an underscore and nine lower-case
hexadecimal characters. -/
def IsKey (keyPrefix key : String) : Prop :=
  ∃ millis suffix : List Char, key.toList = keyPrefix.toList ++ millis ++ '_' :: suffix ∧
    millis ≠ [] ∧ (∀ c ∈ millis, c.isDigit = true) ∧ suffix.length = 9 ∧
      ∀ c ∈ suffix, isSuffixChar c = true

variable {keyPrefix key : String}

theorem hasKeyShape_iff : hasKeyShape keyPrefix key = true ↔ IsKey keyPrefix key := by
  unfold hasKeyShape IsKey
  constructor
  · intro h
    split at h
    · next millis suffix hm =>
      obtain ⟨rest, hr, hc⟩ := Option.bind_eq_some_iff.mp hm
      have hk : key.toList = keyPrefix.toList ++ rest := after?_eq_some.mp hr
      obtain ⟨rfl, -⟩ := cut_eq_some_iff.mp hc
      simp only [Bool.and_eq_true, Bool.not_eq_true', List.isEmpty_eq_false_iff, List.all_eq_true,
        beq_iff_eq] at h
      obtain ⟨⟨⟨hn, hd⟩, hl⟩, hs⟩ := h
      exact ⟨millis, suffix, by rw [hk, List.append_assoc], hn, hd, hl, hs⟩
    · cases h
  · rintro ⟨millis, suffix, hk, hn, hd, hl, hs⟩
    have hu : '_' ∉ millis := fun hm => absurd (hd '_' hm) (by decide)
    have hr : after? keyPrefix key.toList = some (millis ++ '_' :: suffix) :=
      after?_eq_some.mpr (by rw [hk, List.append_assoc])
    have hc : cut '_' (millis ++ '_' :: suffix) = some (millis, suffix) :=
      cut_eq_some_iff.mpr ⟨rfl, hu⟩
    rw [hr, Option.bind_some, hc]
    simp only [Bool.and_eq_true, Bool.not_eq_true', List.isEmpty_eq_false_iff,
      List.all_eq_true, beq_iff_eq]
    exact ⟨⟨⟨hn, hd⟩, hl⟩, hs⟩

theorem isSuffixChar_digitChar : ∀ d : Fin 16, isSuffixChar (Nat.digitChar d.val) = true := by
  decide

/-- A key that is made is a key, unless the clock stands before the start of 1970. -/
theorem isKey_makeKey (keyPrefix : String) {millis : Int} (h : 0 ≤ millis) (suffix : Suffix) :
    IsKey keyPrefix (makeKey keyPrefix millis suffix) := by
  obtain ⟨n, rfl⟩ := Int.eq_ofNat_of_zero_le h
  have hn : toString (n : Int) = String.ofList (Nat.toDigits 10 n) := rfl
  refine ⟨Nat.toDigits 10 n, suffix.chars, ?_, Nat.toDigits_ne_nil, ?_, ?_, ?_⟩
  · simp [makeKey, hn, String.toList_append]
  · exact fun c => Text.isDigit_of_mem_toDigits
  · rw [Suffix.chars, List.length_map, Vector.length_toList]
    rfl
  · intro c hc
    obtain ⟨d, -, rfl⟩ := List.mem_map.mp hc
    exact isSuffixChar_digitChar d

/-- What begins a key and has no digit in it begins the prefix of the key. -/
theorem IsKey.prefix_of_prefix (h : IsKey keyPrefix key) {lead : List Char}
    (hl : lead <+: key.toList)
    (hd : ∀ c ∈ lead, c.isDigit = false) : lead <+: keyPrefix.toList := by
  obtain ⟨millis, suffix, hk, hn, hm, -, -⟩ := h
  have hp : keyPrefix.toList <+: key.toList :=
    ⟨millis ++ '_' :: suffix, by rw [hk, List.append_assoc]⟩
  rcases List.prefix_or_prefix_of_prefix hl hp with h | ⟨rest, hr⟩
  · exact h
  · cases rest with
    | nil =>
      rw [List.append_nil] at hr
      exact ⟨[], by rw [List.append_nil, hr]⟩
    | cons c rest =>
      -- The lead would go on with the first digit of the key.
      exfalso
      obtain ⟨d, millis, rfl⟩ := List.exists_cons_of_ne_nil hn
      rw [hk, ← hr, List.append_assoc, List.prefix_append_right_inj, List.cons_append,
        List.cons_prefix_cons] at hl
      have hc : c.isDigit = false := hd c (by rw [← hr]; simp)
      rw [hl.1, hm d List.mem_cons_self] at hc
      cases hc

end Cache

namespace Directive

/-- A text begins like a directive. -/
def HasLead (text : String) : Prop :=
  ∃ p ∈ productions, p.1.toList <+: text.toList

theorem isDigit_of_mem_lead : ∀ p ∈ productions, ∀ c ∈ p.1.toList, c.isDigit = false := by
  have hall : ∀ p ∈ productions, p.1.toList.all (!·.isDigit) = true := by decide +kernel
  intro p hp c hc
  exact (Bool.not_eq_true' _).mp (List.all_eq_true.mp (hall p hp) c hc)

theorem hasLead_key_iff {keyPrefix key : String} (h : Cache.IsKey keyPrefix key) :
    HasLead key ↔ HasLead keyPrefix := by
  constructor
  · rintro ⟨p, hp, hl⟩
    exact ⟨p, hp, h.prefix_of_prefix hl (isDigit_of_mem_lead p hp)⟩
  · rintro ⟨p, hp, hl⟩
    obtain ⟨millis, suffix, hk, -⟩ := h
    refine ⟨p, hp, hl.trans ⟨millis ++ '_' :: suffix, ?_⟩⟩
    rw [hk, List.append_assoc]

theorem read_of_not_hasLead {keyPrefix text : String} (h : ¬ HasLead text) :
    read keyPrefix text = if Cache.hasKeyShape keyPrefix text then .cacheKey text
      else .literal := by
  have hn : (productions.findSome? fun p => (after? p.1 text.toList).map p.2) = none := by
    rw [List.findSome?_eq_none_iff]
    intro p hp
    rw [Option.map_eq_none_iff]
    cases hr : after? p.1 text.toList with
    | none => rfl
    | some rest => exact absurd ⟨p, hp, rest, (after?_eq_some.mp hr).symm⟩ h
  rw [read, hn]

theorem read_of_hasLead {text : String} (keyPrefix : String) (h : HasLead text) :
    ∃ p ∈ productions, ∃ rest, read keyPrefix text = (p.2 rest).getD (.malformed text) := by
  obtain ⟨q, hq, rest, hr⟩ := h
  have ha : after? q.1 text.toList = some rest := after?_eq_some.mpr hr.symm
  cases hf : productions.findSome? fun p => (after? p.1 text.toList).map p.2 with
  | none =>
    have hn := List.findSome?_eq_none_iff.mp hf q hq
    rw [ha] at hn
    cases hn
  | some directive? =>
    obtain ⟨p, hp, hd⟩ := List.exists_of_findSome?_eq_some hf
    obtain ⟨rest, -, rfl⟩ := Option.map_eq_some_iff.mp hd
    refine ⟨p, hp, rest, ?_⟩
    rw [read, hf]

theorem wellFormed_or_malformed {text : String} (keyPrefix : String) (h : HasLead text) :
    (read keyPrefix text).WellFormed ∨ read keyPrefix text = .malformed text := by
  obtain ⟨p, hp, rest, hr⟩ := read_of_hasLead keyPrefix h
  rw [hr]
  cases hd : p.2 rest with
  | none => exact .inr rfl
  | some d => exact .inl (wellFormed_of_production hp hd)

theorem eq_of_read_eq_cacheKey {keyPrefix text key : String}
    (h : read keyPrefix text = .cacheKey key) : key = text := by
  by_cases hl : HasLead text
  · obtain hw | hm := wellFormed_or_malformed keyPrefix hl
    · rw [h] at hw
      cases hw
    · rw [h] at hm
      cases hm
  · rw [read_of_not_hasLead hl] at h
    split at h
    · cases h
      rfl
    · cases h

/-- The directive asks for an entry of the history. -/
def ReadsHistory : Directive → Prop
  | .idSet _ indices => indices ≠ []
  | .recordSet _ indices => indices ≠ []
  | .cacheKey _ => False
  | .malformed _ => False
  | .literal => False
  | _ => True

theorem entryAt_nil (source : Source) : ∃ error, History.entryAt [] source = .error error := by
  cases source with
  | index n => exact ⟨_, rfl⟩
  | last => exact ⟨_, rfl⟩

theorem evaluate_nil {d : Directive} (h : d.ReadsHistory) :
    ∃ error, d.evaluate [] = .error error := by
  cases d with
  | field source | slice source | filter source | sort source | whole source | ids source
  | records source =>
    obtain ⟨error, he⟩ := entryAt_nil source
    exact ⟨error, by simp only [evaluate, History.listAt, he]; rfl⟩
  | idSet operation indices | recordSet operation indices =>
    obtain ⟨n, rest, rfl⟩ := List.exists_cons_of_ne_nil h
    exact ⟨_, rfl⟩
  | cacheKey | malformed | literal => cases h

/-- What a text can give as a directive stands for something in the history. -/
theorem WellFormed.readsHistory {d : Directive} (h : d.WellFormed) : d.ReadsHistory := by
  cases d with
  | idSet | recordSet => exact h.1
  | cacheKey | malformed | literal => exact h
  | _ => trivial

end Directive

namespace Resolution

open Directive

variable {keyPrefix text : String}

theorem resolveText_cacheKey (h : read keyPrefix text = .cacheKey text) (history : History) :
    resolveText keyPrefix history text = (.string text, []) := by
  rw [resolveText, h]
  rfl

/-- Before any step is done, whatever begins like a directive gives way to an empty array. -/
theorem resolveText_nil_of_hasLead (keyPrefix : String) (h : HasLead text) :
    ∃ warning, resolveText keyPrefix [] text = (.array [], [warning]) := by
  obtain hw | hm := wellFormed_or_malformed keyPrefix h
  · obtain ⟨error, he⟩ := evaluate_nil hw.readsHistory
    refine ⟨text ++ ": " ++ error.message, ?_⟩
    rw [resolveText]
    cases hd : read keyPrefix text with
    | literal =>
      rw [hd] at hw
      cases hw
    | _ => simp only [← hd, he]
  · rw [resolveText, hm]
    exact ⟨_, rfl⟩

/-- A key is left as it is, whatever has been done, exactly if its prefix does not begin like a
directive. -/
theorem resolveText_key_iff {key : String} (h : Cache.IsKey keyPrefix key) :
    (∀ history, resolveText keyPrefix history key = (.string key, [])) ↔ ¬ HasLead keyPrefix := by
  rw [← hasLead_key_iff h]
  constructor
  · intro hr hl
    obtain ⟨warning, hw⟩ := resolveText_nil_of_hasLead keyPrefix hl
    rw [hr []] at hw
    cases hw
  · intro hn history
    apply resolveText_cacheKey
    rw [read_of_not_hasLead hn, if_pos (Cache.hasKeyShape_iff.mpr h)]

end Resolution

end Toolflow
