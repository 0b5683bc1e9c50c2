/-!
Taking text apart at its lead or at a separator. Main statements: `after?` finds what follows a lead
(`after?_eq_some`), `cut` parts a text at its first separator (`cut_eq_some_iff`), and joining the
fields of a text gives the text back (`join_fields`).
-/

namespace Toolflow.Text

def afterChars? : List Char → List Char → Option (List Char)
  | [], cs => some cs
  | _ :: _, [] => none
  | l :: ls, c :: cs => if l = c then afterChars? ls cs else none

/-- What follows a lead. -/
def after? (lead : String) (cs : List Char) : Option (List Char) :=
  afterChars? lead.toList cs

theorem afterChars?_eq_some {ls cs rest : List Char} :
    afterChars? ls cs = some rest ↔ cs = ls ++ rest := by
  induction ls generalizing cs with
  | nil => simp [afterChars?, eq_comm]
  | cons l ls ih =>
    cases cs with
    | nil => simp [afterChars?]
    | cons c cs =>
      by_cases h : l = c
      · simp [afterChars?, h, ih]
      · simp [afterChars?, h, Ne.symm h]

theorem after?_eq_some {lead : String} {cs rest : List Char} :
    after? lead cs = some rest ↔ cs = lead.toList ++ rest :=
  afterChars?_eq_some

/-- The text before and after the first separator. -/
def cut (sep : Char) : List Char → Option (List Char × List Char)
  | [] => none
  | c :: cs => if c = sep then some ([], cs) else (cut sep cs).map fun (before, after) =>
    (c :: before, after)

theorem cut_eq_some_iff {sep : Char} {cs before rest : List Char} :
    cut sep cs = some (before, rest) ↔ cs = before ++ sep :: rest ∧ sep ∉ before := by
  induction cs generalizing before with
  | nil => simp [cut]
  | cons c cs ih =>
    by_cases h : c = sep
    · cases before with
      | nil => simp [cut, h]
      | cons b bs =>
        simp only [cut, h, if_true, Option.some.injEq, Prod.mk.injEq, List.cons_append,
          List.cons.injEq, List.mem_cons]
        grind
    · cases before with
      | nil => simp [cut, h]
      | cons b bs =>
        simp only [cut, h, if_false, Option.map_eq_some_iff, Prod.mk.injEq, List.cons.injEq,
          Prod.exists, List.cons_append, List.mem_cons]
        grind

/-- The stretches between separators; text without a separator is one field. -/
def fields (sep : Char) : List Char → List (List Char)
  | [] => [[]]
  | c :: cs =>
    if c = sep then [] :: fields sep cs
    else match fields sep cs with
      | [] => [[c]]
      | f :: fs => (c :: f) :: fs

def join (sep : Char) : List (List Char) → List Char
  | [] => []
  | [f] => f
  | f :: g :: fs => f ++ sep :: join sep (g :: fs)

theorem fields_ne_nil (sep : Char) (cs : List Char) : fields sep cs ≠ [] := by
  cases cs with
  | nil => simp [fields]
  | cons c cs =>
    unfold fields
    split
    · simp
    · split <;> simp

theorem join_fields (sep : Char) (cs : List Char) : join sep (fields sep cs) = cs := by
  induction cs with
  | nil => rfl
  | cons c cs ih =>
    unfold fields
    split
    · next h =>
      obtain ⟨f, fs, hf⟩ := List.exists_cons_of_ne_nil (fields_ne_nil sep cs)
      rw [hf] at ih ⊢
      simp [join, ih, h]
    · split
      · next h => exact absurd h (fields_ne_nil sep cs)
      · next f fs h =>
        rw [h] at ih
        cases fs <;> simp_all [join]

/-- The segments of a path: its fields between dots, empty ones left out. -/
def segments (path : List Char) : List String :=
  ((fields '.' path).filter (· ≠ [])).map String.ofList

end Toolflow.Text
