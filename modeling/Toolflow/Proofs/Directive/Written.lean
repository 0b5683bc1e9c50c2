import Toolflow.Directive.Reader
import Toolflow.Proofs.Text.Parts

/-!
Directives as they are written. No lead begins like another, so a text with the lead of a production
is read by that production alone (`read_of_mem`). From there on the texts for a field, the
identifiers, the records and the whole of one result, for sets of several results, and for slices,
filters and sorts are read back as these.
-/

namespace Toolflow

open Text

/-- A source as it is written in a directive. -/
def Source.chars : Source → List Char
  | .index n => Nat.toDigits 10 n
  | .last => "LAST".toList

/-- The position that a source names is within the range of counts. -/
def Source.Fits : Source → Prop
  | .index n => n < UInt64.size
  | .last => True

namespace Source

variable {source : Source}

theorem chars_eq_cons (source : Source) : ∃ c cs, source.chars = c :: cs ∧ c ≠ 'T' := by
  cases source with
  | index n =>
    obtain ⟨c, cs, hc⟩ := List.exists_cons_of_ne_nil (Nat.toDigits_ne_nil (n := n) (b := 10))
    refine ⟨c, cs, hc, ?_⟩
    rintro rfl
    cases isDigit_of_mem_toDigits (hc ▸ List.mem_cons_self)
  | last => exact ⟨'L', _, rfl, by decide⟩

theorem dot_notMem_chars (source : Source) : '.' ∉ source.chars := by
  cases source with
  | index n =>
    intro h
    cases isDigit_of_mem_toDigits h
  | last => decide

theorem read?_chars (h : source.Fits) : Source.read? source.chars = some source := by
  cases source with
  | index n =>
    have hn : String.ofList (Nat.toDigits 10 n) ≠ "LAST" := by
      intro he
      have hl : 'L' ∈ Nat.toDigits 10 n := by
        rw [← String.toList_ofList (l := Nat.toDigits 10 n), he]
        decide
      cases isDigit_of_mem_toDigits hl
    simp only [Source.read?, Source.chars, if_neg hn, readCount?_toDigits h, Option.map_some]
  | last => rfl

end Source

/-- How the directives for a set operation begin. -/
def Record.SetOperation.lead : Record.SetOperation → String
  | .merge => "MERGE_"
  | .unique => "UNIQUE_"
  | .intersect => "INTERSECT_"

namespace Directive

variable {keyPrefix : String} {source : Source} {path : List String}

theorem leads_incomparable :
    productions.Pairwise fun p q => ¬ p.1.toList <+: q.1.toList ∧ ¬ q.1.toList <+: p.1.toList := by
  decide +kernel

theorem read_of_mem {lead : String} {readRest? : List Char → Option Directive}
    (hp : (lead, readRest?) ∈ productions) (rest : List Char) :
    read keyPrefix (String.ofList (lead.toList ++ rest)) =
      (readRest? rest).getD (.malformed (String.ofList (lead.toList ++ rest))) := by
  obtain ⟨before, after, hs⟩ := List.append_of_mem hp
  have hb : before.findSome? (fun q => (after? q.1 (lead.toList ++ rest)).map q.2) = none := by
    rw [List.findSome?_eq_none_iff]
    intro q hq
    have hn := leads_incomparable
    rw [hs, List.pairwise_append] at hn
    obtain ⟨hqp, hpq⟩ := hn.2.2 q hq _ List.mem_cons_self
    cases ha : after? q.1 (lead.toList ++ rest) with
    | none => rfl
    | some tail =>
      have hl : q.1.toList <+: lead.toList ++ rest := ⟨tail, (after?_eq_some.mp ha).symm⟩
      obtain h | h := List.prefix_or_prefix_of_prefix hl (List.prefix_append lead.toList rest)
      · exact absurd h hqp
      · exact absurd h hpq
  have ha : after? lead (lead.toList ++ rest) = some rest := after?_eq_some.mpr rfl
  rw [read, String.toList_ofList, hs, List.findSome?_append, hb, Option.none_or,
    List.findSome?_cons, ha, Option.map_some]

/-- A path as it can be written: no segment is empty or has a dot in it. -/
def IsPath (path : List String) : Prop :=
  ∀ segment ∈ path, segment ≠ "" ∧ '.' ∉ segment.toList

theorem segments_dot (cs : List Char) : segments ('.' :: cs) = segments cs := by
  simp [segments, fields]

theorem dotted_eq_cons (hp : IsPath path) (hn : path ≠ []) :
    ∃ rest, dotted path = '.' :: rest ∧ rest ≠ [] ∧ segments rest = path := by
  cases path with
  | nil => exact absurd rfl hn
  | cons segment path =>
    have hd : dotted (segment :: path) = '.' :: (segment.toList ++ dotted path) := by simp [dotted]
    refine ⟨_, hd, ?_, ?_⟩
    · intro he
      obtain ⟨hs, -⟩ := List.append_eq_nil_iff.mp he
      exact (hp segment List.mem_cons_self).1 (String.toList_eq_nil_iff.mp hs)
    · rw [← segments_dot, ← hd]
      exact segments_dotted (fun s hs => (hp s hs).2) fun s hs => (hp s hs).1

theorem ofPath?_eq_field {rest : List Char} (hs : segments rest = path) (hn : path ≠ []) :
    ofPath? source rest = some (.field source path) := by
  rw [ofPath?, hs, if_neg hn]

/-- A whole result, or the part of it that a path leads to. -/
def part (source : Source) (path : List String) : Directive :=
  if path = [] then .whole source else .field source path

theorem after?_eq_none_of_head {lead : String} {l c : Char} {ls cs : List Char}
    (hl : lead.toList = l :: ls) (h : l ≠ c) : after? lead (c :: cs) = none := by
  rw [after?, hl, afterChars?, if_neg h]

theorem extract_mem : ("EXTRACT_", readExtract?) ∈ productions := by
  simp [productions]

theorem read_extract (hs : source.Fits) (hp : IsPath path) (hn : path ≠ []) :
    read keyPrefix (String.ofList ("EXTRACT_".toList ++ (source.chars ++ dotted path))) =
      .field source path := by
  obtain ⟨c, cs, hc, hne⟩ := source.chars_eq_cons
  obtain ⟨rest, hd, -, hr⟩ := dotted_eq_cons hp hn
  have hids : after? "TRADE_IDS" (source.chars ++ dotted path) = none := by
    rw [hc]
    exact after?_eq_none_of_head rfl hne.symm
  have hrecords : after? "TRADES" (source.chars ++ dotted path) = none := by
    rw [hc]
    exact after?_eq_none_of_head rfl hne.symm
  have hcut : cut '.' (source.chars ++ dotted path) = some (source.chars, rest) :=
    cut_eq_some_iff.mpr ⟨by rw [hd], source.dot_notMem_chars⟩
  have he : readExtract? (source.chars ++ dotted path) = some (.field source path) := by
    rw [readExtract?, hids, hrecords]
    simp only [hcut, Source.read?_chars hs, Option.bind_eq_bind, Option.bind_some]
    exact ofPath?_eq_field hr hn
  rw [read_of_mem extract_mem, he, Option.getD_some]

theorem read_extractIds (hs : source.Fits) :
    read keyPrefix (String.ofList ("EXTRACT_TRADE_IDS_".toList ++ source.chars)) = .ids source := by
  have he : readExtract? ("TRADE_IDS_".toList ++ source.chars) = some (.ids source) := by
    have ha : after? "TRADE_IDS" ("TRADE_IDS_".toList ++ source.chars) =
        some ('_' :: source.chars) :=
      after?_eq_some.mpr rfl
    rw [readExtract?, ha]
    simp only [readOptionalSource?, Source.read?_chars hs, Option.map_some]
  have h : read keyPrefix (String.ofList
      ("EXTRACT_".toList ++ ("TRADE_IDS_".toList ++ source.chars))) = _ :=
    read_of_mem extract_mem _
  rwa [he] at h

theorem read_extractRecords (hs : source.Fits) :
    read keyPrefix (String.ofList ("EXTRACT_TRADES_".toList ++ source.chars)) =
      .records source := by
  have he : readExtract? ("TRADES_".toList ++ source.chars) = some (.records source) := by
    have hids : after? "TRADE_IDS" ("TRADES_".toList ++ source.chars) = none := rfl
    have ha : after? "TRADES" ("TRADES_".toList ++ source.chars) = some ('_' :: source.chars) :=
      after?_eq_some.mpr rfl
    rw [readExtract?, hids, ha]
    simp only [readOptionalSource?, Source.read?_chars hs, Option.map_some]
  have h : read keyPrefix (String.ofList
      ("EXTRACT_".toList ++ ("TRADES_".toList ++ source.chars))) = _ :=
    read_of_mem extract_mem _
  rwa [he] at h

theorem read_lastResult (hp : IsPath path) :
    read keyPrefix (String.ofList ("LAST_RESULT".toList ++ dotted path)) = part .last path := by
  have hm : ("LAST_RESULT", readLastResult?) ∈ productions := by simp [productions]
  rw [read_of_mem hm]
  by_cases hn : path = []
  · subst hn
    rfl
  · obtain ⟨rest, hd, hr, hs⟩ := dotted_eq_cons hp hn
    simp only [hd, readLastResult?, ofOptionalPath?, if_neg hr, ofPath?_eq_field hs hn, part,
      if_neg hn, Option.getD_some]

theorem read_result {i : Nat} (hi : i < UInt64.size) (hp : IsPath path) :
    read keyPrefix (String.ofList ("RESULT_".toList ++ (Nat.toDigits 10 i ++ dotted path))) =
      part (.index i) path := by
  have hm : ("RESULT_", readResult?) ∈ productions := by simp [productions]
  have hdot : '.' ∉ Nat.toDigits 10 i := (Source.index i).dot_notMem_chars
  rw [read_of_mem hm]
  by_cases hn : path = []
  · subst hn
    have hcut : cut '.' (Nat.toDigits 10 i) = none := by
      rw [Option.eq_none_iff_forall_not_mem]
      rintro ⟨before, rest⟩ hc
      obtain ⟨hb, -⟩ := cut_eq_some_iff.mp hc
      apply hdot
      simp [hb]
    have hd : Nat.toDigits 10 i ++ dotted [] = Nat.toDigits 10 i := List.append_nil _
    simp only [hd, readResult?, hcut, Option.getD_none, readCount?_toDigits hi, Option.bind_some,
      ofOptionalPath?, part, if_true, Option.getD_some]
  · obtain ⟨rest, hd, hr, hs⟩ := dotted_eq_cons hp hn
    have hcut : cut '.' (Nat.toDigits 10 i ++ dotted path) = some (Nat.toDigits 10 i, rest) :=
      cut_eq_some_iff.mpr ⟨by rw [hd], hdot⟩
    simp only [readResult?, hcut, Option.getD_some, readCount?_toDigits hi, Option.bind_some,
      ofOptionalPath?, if_neg hr, ofPath?_eq_field hs hn, part, if_neg hn]

section Sets

variable {operation : Record.SetOperation} {indices : List Nat}

theorem readIndices?_join (hn : indices ≠ []) (hi : ∀ n ∈ indices, n < UInt64.size) :
    readIndices? (join '_' (indices.map (Nat.toDigits 10))) = some indices := by
  have hu : ∀ f ∈ indices.map (Nat.toDigits 10), '_' ∉ f := by
    intro f hf hm
    obtain ⟨n, -, rfl⟩ := List.mem_map.mp hf
    cases isDigit_of_mem_toDigits hm
  have hr (ns : List Nat) (hns : ∀ n ∈ ns, n < UInt64.size) :
      (ns.map (Nat.toDigits 10)).mapM readCount? = some ns := by
    induction ns with
    | nil => rfl
    | cons n ns ih =>
      obtain ⟨hn, hns⟩ := List.forall_mem_cons.mp hns
      rw [List.map_cons, List.mapM_cons, readCount?_toDigits hn, ih hns]
      rfl
  rw [readIndices?, fields_join (by simpa using hn) hu]
  exact hr indices hi

theorem mem_productions_of_setProductions {p : Production}
    (h : p ∈ setProductions operation.lead operation) :
    p ∈ productions := by
  cases operation with
  | merge => simp [productions, show p ∈ setProductions "MERGE_" .merge from h]
  | unique => simp [productions, show p ∈ setProductions "UNIQUE_" .unique from h]
  | intersect => simp [productions, show p ∈ setProductions "INTERSECT_" .intersect from h]

/-- The text of a set operation: its lead, what it is on, and the positions of the results. -/
def setText (operation : Record.SetOperation) (kind : String) (indices : List Nat) : List Char :=
  (operation.lead ++ kind).toList ++ join '_' (indices.map (Nat.toDigits 10))

theorem read_idSet (hn : indices ≠ []) (hi : ∀ n ∈ indices, n < UInt64.size) :
    read keyPrefix (String.ofList (setText operation "TRADE_IDS_" indices)) =
      .idSet operation indices := by
  have hm : (operation.lead ++ "TRADE_IDS_", fun cs => (readIndices? cs).map (.idSet operation)) ∈
      productions :=
    mem_productions_of_setProductions List.mem_cons_self
  rw [setText, read_of_mem hm, readIndices?_join hn hi]
  rfl

theorem read_recordSet (hn : indices ≠ []) (hi : ∀ n ∈ indices, n < UInt64.size) :
    read keyPrefix (String.ofList (setText operation "TRADES_" indices)) =
      .recordSet operation indices := by
  have hm : (operation.lead ++ "TRADES_", fun cs => (readIndices? cs).map (.recordSet operation)) ∈
      productions :=
    mem_productions_of_setProductions (List.mem_cons_of_mem _ List.mem_cons_self)
  rw [setText, read_of_mem hm, readIndices?_join hn hi]
  rfl

end Sets

section Lists

variable {list property value : String}

theorem cut_chars_dotted (source : Source) (segment : String) (path : List String) :
    cut '.' (source.chars ++ dotted (segment :: path)) =
      some (source.chars, segment.toList ++ dotted path) := by
  refine cut_eq_some_iff.mpr ⟨?_, source.dot_notMem_chars⟩
  simp [dotted]

theorem cut_segment_dotted {segment : String} (hs : '.' ∉ segment.toList) (next : String)
    (path : List String) :
    cut '.' (segment.toList ++ dotted (next :: path)) =
      some (segment.toList, next.toList ++ dotted path) := by
  refine cut_eq_some_iff.mpr ⟨?_, hs⟩
  simp [dotted]

theorem read_slice {start stop : Nat} (hs : source.Fits) (hp : IsPath path)
    (hstart : start < UInt64.size) (hstop : stop < UInt64.size) :
    read keyPrefix (String.ofList
        ("SLICE_".toList ++ (source.chars ++ dotted (path ++ [toString start, toString stop])))) =
      .slice source path start stop := by
  have hm : ("SLICE_", readSlice?) ∈ productions := by simp [productions]
  have hnum (n : Nat) : (toString n).toList = Nat.toDigits 10 n := String.toList_ofList
  have hdot : ∀ segment ∈ path ++ [toString start, toString stop], '.' ∉ segment.toList := by
    intro segment hsegment
    simp only [List.mem_append, List.mem_cons, List.not_mem_nil, or_false] at hsegment
    obtain h | rfl | rfl := hsegment
    · exact (hp segment h).2
    · rw [hnum]
      exact (Source.index start).dot_notMem_chars
    · rw [hnum]
      exact (Source.index stop).dot_notMem_chars
  obtain ⟨first, others, hsplit⟩ : ∃ first others, path ++ [toString start, toString stop] =
      first :: others :=
    List.exists_cons_of_ne_nil (by simp)
  have hf : fields '.' (first.toList ++ dotted others) =
      path.map String.toList ++ [Nat.toDigits 10 start, Nat.toDigits 10 stop] := by
    have h := fields_dotted hdot
    rw [hsplit, dotted, List.flatMap_cons, List.cons_append, fields, if_pos rfl, ← hsplit] at h
    simpa [dotted, hnum] using (List.cons.inj h).2
  have hfilter := filter_map_toList fun segment hsegment => (hp segment hsegment).1
  have he : readSlice? (source.chars ++ dotted (path ++ [toString start, toString stop])) =
      some (.slice source path start stop) := by
    rw [hsplit]
    simp only [readSlice?, cut_chars_dotted, Option.bind_eq_bind, Option.bind_some,
      Source.read?_chars hs, hf, List.reverse_append, List.reverse_cons, List.reverse_nil,
      List.nil_append, List.cons_append, List.reverse_reverse, readCount?_toDigits hstart,
      readCount?_toDigits hstop, hfilter, List.map_map]
    simp
  rw [read_of_mem hm, he, Option.getD_some]

theorem read_filter {predicate : Record.Predicate} (hs : source.Fits) (hn : IsPath [list, property])
    (hv : value ≠ "") (hr : readPredicate? value.toList = some predicate) :
    read keyPrefix (String.ofList
        ("FILTER_".toList ++ (source.chars ++ dotted [list, property, value]))) =
      .filter source list property predicate := by
  have hm : ("FILTER_", readFilter?) ∈ productions := by simp [productions]
  obtain ⟨hlist, hproperty⟩ : (list ≠ "" ∧ '.' ∉ list.toList) ∧ property ≠ "" ∧
      '.' ∉ property.toList := by
    simpa [IsPath] using hn
  have he : readFilter? (source.chars ++ dotted [list, property, value]) =
      some (.filter source list property predicate) := by
    have hempty : dotted [] = [] := rfl
    simp only [readFilter?, cut_chars_dotted, cut_segment_dotted hlist.2,
      cut_segment_dotted hproperty.2, Source.read?_chars hs, Option.bind_eq_bind, Option.bind_some,
      hempty, List.append_nil, String.toList_eq_nil_iff, hlist.1, hproperty.1, hv, or_self,
      if_false, String.ofList_toList, hr]
    rfl
  rw [read_of_mem hm, he, Option.getD_some]

theorem read_sort (hs : source.Fits) (hn : IsPath [list, property]) {direction : Record.Direction}
    (hr : readDirection? value.toList = some direction) :
    read keyPrefix (String.ofList
        ("SORT_".toList ++ (source.chars ++ dotted [list, property, value]))) =
      .sort source list property direction := by
  have hm : ("SORT_", readSort?) ∈ productions := by simp [productions]
  obtain ⟨hlist, hproperty⟩ : (list ≠ "" ∧ '.' ∉ list.toList) ∧ property ≠ "" ∧
      '.' ∉ property.toList := by
    simpa [IsPath] using hn
  have he : readSort? (source.chars ++ dotted [list, property, value]) =
      some (.sort source list property direction) := by
    have hempty : dotted [] = [] := rfl
    simp only [readSort?, cut_chars_dotted, cut_segment_dotted hlist.2,
      cut_segment_dotted hproperty.2, Source.read?_chars hs, Option.bind_eq_bind, Option.bind_some,
      hempty, List.append_nil, String.toList_eq_nil_iff, hlist.1, hproperty.1, or_self, if_false,
      String.ofList_toList, hr]
    rfl
  rw [read_of_mem hm, he, Option.getD_some]

end Lists

end Directive

end Toolflow
