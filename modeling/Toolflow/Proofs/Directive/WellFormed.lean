import Toolflow.Proofs.Directive.Written

/-!
What a text can give as a directive. Numbers that are read fit a count, and names that are read are
not empty and have no dot in them, so that they can be written again. Main statement:
`wellFormed_of_production`.
-/

namespace Toolflow

open Text

/-- A text for a predicate, if it has one without a number. -/
def Record.Predicate.text? : Record.Predicate → Option String
  | .compare _ _ => none
  | .win => some "win"
  | .loss => some "loss"
  | .equals text => some text

theorem Source.fits_of_read? {cs : List Char} {source : Source}
    (h : Source.read? cs = some source) : source.Fits := by
  unfold Source.read? at h
  split at h
  · cases h
    trivial
  · obtain ⟨n, hn, rfl⟩ := Option.map_eq_some_iff.mp h
    exact readCount?_lt hn

namespace Directive

/-- The directive can be given by a text that a production reads. -/
def WellFormed : Directive → Prop
  | .field source path => source.Fits ∧ IsPath path ∧ path ≠ []
  | .idSet _ indices => indices ≠ [] ∧ ∀ n ∈ indices, n < UInt64.size
  | .recordSet _ indices => indices ≠ [] ∧ ∀ n ∈ indices, n < UInt64.size
  | .slice source path start stop =>
    source.Fits ∧ IsPath path ∧ start < UInt64.size ∧ stop < UInt64.size
  | .filter source list property predicate => source.Fits ∧ IsPath [list, property] ∧
      ∀ value, predicate.text? = some value → value ≠ "" ∧
        readPredicate? value.toList = some predicate
  | .sort source list property _ => source.Fits ∧ IsPath [list, property]
  | .whole source => source.Fits
  | .ids source => source.Fits
  | .records source => source.Fits
  | .cacheKey _ => False
  | .malformed _ => False
  | .literal => False

variable {cs : List Char} {source : Source} {d : Directive}

theorem fits_of_readOptionalSource? (h : readOptionalSource? cs = some source) : source.Fits := by
  unfold readOptionalSource? at h
  split at h
  · cases h
    trivial
  · exact Source.fits_of_read? h
  · cases h

theorem isPath_of_fields {fs : List (List Char)} (h : ∀ f ∈ fs, '.' ∉ f) :
    IsPath ((fs.filter (· ≠ [])).map String.ofList) := by
  intro segment hs
  obtain ⟨f, hf, rfl⟩ := List.mem_map.mp hs
  obtain ⟨hm, hne⟩ := List.mem_filter.mp hf
  refine ⟨?_, ?_⟩
  · simpa using hne
  · rw [String.toList_ofList]
    exact h f hm

theorem isPath_segments (cs : List Char) : IsPath (segments cs) :=
  isPath_of_fields fun _ => notMem_of_mem_fields

theorem wellFormed_of_ofPath? (hs : source.Fits) (h : ofPath? source cs = some d) :
    d.WellFormed := by
  unfold ofPath? at h
  split at h
  · cases h
  · next hn =>
    cases h
    exact ⟨hs, isPath_segments cs, hn⟩

theorem wellFormed_of_ofOptionalPath? (hs : source.Fits) (h : ofOptionalPath? source cs = some d) :
    d.WellFormed := by
  unfold ofOptionalPath? at h
  split at h
  · cases h
    exact hs
  · exact wellFormed_of_ofPath? hs h

theorem wellFormed_indices {indices : List Nat} (h : readIndices? cs = some indices) :
    indices ≠ [] ∧ ∀ n ∈ indices, n < UInt64.size := by
  have hr (fs : List (List Char)) (ns : List Nat) (h : fs.mapM readCount? = some ns) :
      ns.length = fs.length ∧ ∀ n ∈ ns, n < UInt64.size := by
    induction fs generalizing ns with
    | nil =>
      cases h
      exact ⟨rfl, List.forall_mem_nil _⟩
    | cons f fs ih =>
      rw [List.mapM_cons] at h
      obtain ⟨n, hn, h⟩ := Option.bind_eq_some_iff.mp h
      obtain ⟨ns, hns, h⟩ := Option.bind_eq_some_iff.mp h
      cases h
      obtain ⟨hl, hlt⟩ := ih ns hns
      exact ⟨congrArg Nat.succ hl, List.forall_mem_cons.mpr ⟨readCount?_lt hn, hlt⟩⟩
  obtain ⟨hl, hlt⟩ := hr _ _ h
  refine ⟨?_, hlt⟩
  rintro rfl
  exact fields_ne_nil '_' cs (List.length_eq_zero_iff.mp hl.symm)

theorem wellFormed_of_setProductions {lead : String} {operation : Record.SetOperation}
    {p : Production} (hp : p ∈ setProductions lead operation)
    (h : p.2 cs = some d) : d.WellFormed := by
  simp only [setProductions, List.mem_cons, List.not_mem_nil, or_false] at hp
  obtain rfl | rfl := hp
  · obtain ⟨indices, hi, rfl⟩ := Option.map_eq_some_iff.mp h
    exact wellFormed_indices hi
  · obtain ⟨indices, hi, rfl⟩ := Option.map_eq_some_iff.mp h
    exact wellFormed_indices hi

theorem wellFormed_of_readExtract? (h : readExtract? cs = some d) : d.WellFormed := by
  unfold readExtract? at h
  split at h
  · obtain ⟨source, hs, rfl⟩ := Option.map_eq_some_iff.mp h
    exact fits_of_readOptionalSource? hs
  · split at h
    · obtain ⟨source, hs, rfl⟩ := Option.map_eq_some_iff.mp h
      exact fits_of_readOptionalSource? hs
    · obtain ⟨_, -, h⟩ := Option.bind_eq_some_iff.mp h
      obtain ⟨source, hs, h⟩ := Option.bind_eq_some_iff.mp h
      exact wellFormed_of_ofPath? (Source.fits_of_read? hs) h

theorem wellFormed_of_readSlice? (h : readSlice? cs = some d) : d.WellFormed := by
  obtain ⟨⟨_, rest⟩, -, h⟩ := Option.bind_eq_some_iff.mp h
  obtain ⟨source, hs, h⟩ := Option.bind_eq_some_iff.mp h
  split at h
  · next stop start path hr =>
    obtain ⟨startCount, hstart, h⟩ := Option.bind_eq_some_iff.mp h
    obtain ⟨stopCount, hstop, h⟩ := Option.bind_eq_some_iff.mp h
    cases h
    have hdot : ∀ f ∈ path.reverse, '.' ∉ f := by
      intro f hf
      have hm : f ∈ (fields '.' rest).reverse := by
        rw [hr]
        exact List.mem_cons_of_mem _ (List.mem_cons_of_mem _ (List.mem_reverse.mp hf))
      exact notMem_of_mem_fields (List.mem_reverse.mp hm)
    exact ⟨Source.fits_of_read? hs, isPath_of_fields hdot, readCount?_lt hstart,
      readCount?_lt hstop⟩
  · cases h

theorem isPath_names {list property : List Char} (hlist : '.' ∉ list) (hproperty : '.' ∉ property)
    (hn : list ≠ [])
    (hn' : property ≠ []) : IsPath [String.ofList list, String.ofList property] := by
  simp [IsPath, hlist, hproperty, hn, hn']

/-- What is read from a text is read from the text written for it. -/
theorem readPredicate?_text {predicate : Record.Predicate} {value : String} (hn : cs ≠ [])
    (h : readPredicate? cs = some predicate) (hv : predicate.text? = some value) :
    value ≠ "" ∧ readPredicate? value.toList = some predicate := by
  cases predicate with
  | compare comparison operand => cases hv
  | win =>
    cases hv
    exact ⟨by decide, by decide +kernel⟩
  | loss =>
    cases hv
    exact ⟨by decide, by decide +kernel⟩
  | equals text =>
    obtain rfl := Option.some.inj hv
    have ht : text = String.ofList cs := by
      unfold readPredicate? at h
      split at h
      · obtain ⟨_, -, h⟩ := Option.map_eq_some_iff.mp h
        cases h
      · have h := Option.some.inj h
        split at h
        · cases h
        · split at h
          · cases h
          · cases h
            rfl
    subst ht
    refine ⟨by simpa using hn, ?_⟩
    rwa [String.toList_ofList]

theorem wellFormed_of_readFilter? (h : readFilter? cs = some d) : d.WellFormed := by
  obtain ⟨⟨_, rest⟩, -, h⟩ := Option.bind_eq_some_iff.mp h
  obtain ⟨⟨list, rest'⟩, hlist, h⟩ := Option.bind_eq_some_iff.mp h
  obtain ⟨⟨property, value⟩, hproperty, h⟩ := Option.bind_eq_some_iff.mp h
  obtain ⟨source, hs, h⟩ := Option.bind_eq_some_iff.mp h
  split at h
  · cases h
  · next hn =>
    obtain ⟨hl, hp, hv⟩ : list ≠ [] ∧ property ≠ [] ∧ value ≠ [] := by simpa using hn
    obtain ⟨predicate, hr, h⟩ := Option.bind_eq_some_iff.mp h
    cases h
    refine ⟨Source.fits_of_read? hs, ?_, fun _ => readPredicate?_text hv hr⟩
    exact isPath_names (cut_eq_some_iff.mp hlist).2 (cut_eq_some_iff.mp hproperty).2 hl hp

theorem wellFormed_of_readSort? (h : readSort? cs = some d) : d.WellFormed := by
  obtain ⟨⟨_, rest⟩, -, h⟩ := Option.bind_eq_some_iff.mp h
  obtain ⟨⟨list, rest'⟩, hlist, h⟩ := Option.bind_eq_some_iff.mp h
  obtain ⟨⟨property, value⟩, hproperty, h⟩ := Option.bind_eq_some_iff.mp h
  obtain ⟨source, hs, h⟩ := Option.bind_eq_some_iff.mp h
  split at h
  · cases h
  · next hn =>
    obtain ⟨hl, hp⟩ : list ≠ [] ∧ property ≠ [] := by simpa using hn
    obtain ⟨direction, -, h⟩ := Option.bind_eq_some_iff.mp h
    cases h
    exact ⟨Source.fits_of_read? hs,
      isPath_names (cut_eq_some_iff.mp hlist).2 (cut_eq_some_iff.mp hproperty).2 hl hp⟩

theorem wellFormed_of_readLastResult? (h : readLastResult? cs = some d) : d.WellFormed := by
  have hs : Source.last.Fits := trivial
  unfold readLastResult? at h
  split at h
  · cases h
    exact hs
  · exact wellFormed_of_ofOptionalPath? hs h
  · cases h

theorem wellFormed_of_readResult? (h : readResult? cs = some d) : d.WellFormed := by
  obtain ⟨n, hn, h⟩ := Option.bind_eq_some_iff.mp h
  have hs : (Source.index n).Fits := readCount?_lt hn
  exact wellFormed_of_ofOptionalPath? hs h

/-- What a production reads is a directive that can be written. -/
theorem wellFormed_of_production {p : Production} (hp : p ∈ productions) (h : p.2 cs = some d) :
    d.WellFormed := by
  simp only [productions, List.cons_append, List.mem_cons, List.mem_append, List.not_mem_nil,
    or_false] at hp
  obtain rfl | ((hp | hp) | hp) | rfl | rfl | rfl | rfl | rfl := hp
  · exact wellFormed_of_readExtract? h
  · exact wellFormed_of_setProductions hp h
  · exact wellFormed_of_setProductions hp h
  · exact wellFormed_of_setProductions hp h
  · exact wellFormed_of_readSlice? h
  · exact wellFormed_of_readFilter? h
  · exact wellFormed_of_readSort? h
  · exact wellFormed_of_readLastResult? h
  · exact wellFormed_of_readResult? h

end Directive

end Toolflow
