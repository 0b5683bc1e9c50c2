import Toolflow.Json.Value

/-!
Induction over JSON values, and three things to know of one: how deep its containers nest, which
numbers stand in it, and whether the members of its objects are in order.
-/

namespace Toolflow.Json

namespace Members

/-- Keys ascend, so none comes twice. -/
def Ascending (members : Members) : Prop :=
  (Members.keys members).Pairwise (· < ·)

instance (members : Members) : Decidable (Ascending members) :=
  inferInstanceAs (Decidable (List.Pairwise _ _))

end Members

namespace Value

@[elab_as_elim]
theorem induct {motive : Value → Prop} (null : motive .null) (bool : ∀ b, motive (.bool b))
    (number : ∀ n, motive (.number n)) (string : ∀ s, motive (.string s))
    (array : ∀ items, (∀ v ∈ items, motive v) → motive (.array items))
    (object : ∀ members : Members, (∀ m ∈ members, motive m.2) → motive (.object members))
    (v : Value) :
    motive v := by
  have nil {α : Type} (p : α → Prop) : ∀ a ∈ [], p a := fun a h => nomatch h
  exact @Value.rec motive (fun items => ∀ v ∈ items, motive v)
    (fun members => ∀ m ∈ members, motive m.2) (fun m => motive m.2)
    null bool number string array object
    (nil _) (fun _ _ h t => List.forall_mem_cons.mpr ⟨h, t⟩)
    (nil _) (fun _ _ h t => List.forall_mem_cons.mpr ⟨h, t⟩) (fun _ _ h => h) v

mutual

def depth : Value → Nat
  | .array items => itemsDepth items + 1
  | .object members => membersDepth members + 1
  | _ => 0

def itemsDepth : List Value → Nat
  | [] => 0
  | v :: rest => max v.depth (itemsDepth rest)

def membersDepth : List (String × Value) → Nat
  | [] => 0
  | (_, v) :: rest => max v.depth (membersDepth rest)

end

mutual

def numbers : Value → List Number
  | .number n => [n]
  | .array items => itemNumbers items
  | .object members => memberNumbers members
  | _ => []

def itemNumbers : List Value → List Number
  | [] => []
  | v :: rest => v.numbers ++ itemNumbers rest

def memberNumbers : List (String × Value) → List Number
  | [] => []
  | (_, v) :: rest => v.numbers ++ memberNumbers rest

end

mutual

/-- The members of every object in the value are in ascending order of their keys. -/
def Ordered : Value → Prop
  | .array items => ItemsOrdered items
  | .object members => Members.Ascending members ∧ MembersOrdered members
  | _ => True

def ItemsOrdered : List Value → Prop
  | [] => True
  | v :: rest => v.Ordered ∧ ItemsOrdered rest

def MembersOrdered : List (String × Value) → Prop
  | [] => True
  | (_, v) :: rest => v.Ordered ∧ MembersOrdered rest

end

variable {items : List Value} {members : Members}

theorem itemsDepth_le_iff {n : Nat} : itemsDepth items ≤ n ↔ ∀ v ∈ items, v.depth ≤ n := by
  induction items with
  | nil => simp [itemsDepth]
  | cons v rest ih => rw [itemsDepth, Nat.max_le, ih, List.forall_mem_cons]

theorem membersDepth_le_iff {n : Nat} :
    membersDepth members ≤ n ↔ ∀ m ∈ members, m.2.depth ≤ n := by
  induction members with
  | nil => simp [membersDepth]
  | cons m rest ih => rw [membersDepth, Nat.max_le, ih, List.forall_mem_cons]

theorem mem_numbers_array {v : Value} {n : Number} (hv : v ∈ items) (hn : n ∈ v.numbers) :
    n ∈ (array items).numbers := by
  rw [numbers]
  induction items with
  | nil => cases hv
  | cons w rest ih =>
    rw [itemNumbers, List.mem_append]
    rcases List.mem_cons.mp hv with rfl | hv
    · exact .inl hn
    · exact .inr (ih hv)

theorem mem_numbers_object {m : String × Value} {n : Number} (hm : m ∈ members)
    (hn : n ∈ m.2.numbers) :
    n ∈ (object members).numbers := by
  rw [numbers]
  induction members with
  | nil => cases hm
  | cons w rest ih =>
    rw [memberNumbers, List.mem_append]
    rcases List.mem_cons.mp hm with rfl | hm
    · exact .inl hn
    · exact .inr (ih hm)

theorem ordered_array_iff : (array items).Ordered ↔ ∀ v ∈ items, v.Ordered := by
  rw [Ordered]
  induction items with
  | nil => simp [ItemsOrdered]
  | cons v rest ih => rw [ItemsOrdered, ih, List.forall_mem_cons]

theorem ordered_object_iff :
    (object members).Ordered ↔ Members.Ascending members ∧ ∀ m ∈ members, m.2.Ordered := by
  rw [Ordered]
  refine and_congr Iff.rfl ?_
  induction members with
  | nil => simp [MembersOrdered]
  | cons m rest ih => rw [MembersOrdered, ih, List.forall_mem_cons]

end Value

namespace Members

variable {key : String} {value : Value} {members : Members}

@[simp]
theorem get?_nil (key : String) : get? [] key = none := rfl

@[simp]
theorem get?_cons (m : String × Value) (rest : Members) (key : String) :
    get? (m :: rest) key = if key = m.1 then some m.2 else get? rest key := by
  obtain ⟨k, v⟩ := m
  by_cases h : key = k
  · simp [get?, h]
  · have hb : (key == k) = false := by simpa using h
    simp only [get?, List.lookup_cons, hb, h, if_false]

@[simp]
theorem get?_append (front back : Members) (key : String) :
    get? (front ++ back) key = (get? front key).or (get? back key) :=
  List.lookup_append

theorem mem_of_get? (h : get? members key = some value) : (key, value) ∈ members := by
  induction members with
  | nil => cases h
  | cons m rest ih =>
    rw [get?_cons] at h
    split at h
    · next hk =>
      cases h
      exact hk ▸ List.mem_cons_self
    · exact List.mem_cons_of_mem m (ih h)

theorem mem_insert {m : String × Value} (h : m ∈ insert key value members) :
    m = (key, value) ∨ m ∈ members := by
  induction members with
  | nil => simpa [insert] using h
  | cons n rest ih =>
    unfold insert at h
    split at h
    · exact List.mem_cons.mp h
    · split at h
      · exact (List.mem_cons.mp h).imp_right (List.mem_cons_of_mem n)
      · rcases List.mem_cons.mp h with rfl | h
        · exact .inr List.mem_cons_self
        · exact (ih h).imp_right (List.mem_cons_of_mem n)

@[simp]
theorem get?_insert (other : String) :
    get? (insert key value members) other = if other = key then some value
      else get? members other := by
  induction members with
  | nil => rw [insert, get?_cons]
  | cons n rest ih =>
    unfold insert
    split
    · rw [get?_cons]
    · split
      · next he =>
        rw [get?_cons, get?_cons, ← he]
        split
        · rfl
        · rfl
      · next he =>
        rw [get?_cons, get?_cons, ih]
        by_cases ho : other = n.1
        · rw [if_pos ho, if_pos ho, if_neg fun hk => he (hk.symm.trans ho)]
        · rw [if_neg ho, if_neg ho]

theorem ascending_cons {m : String × Value} {rest : Members} :
    Ascending (m :: rest) ↔ (∀ n ∈ rest, m.1 < n.1) ∧ Ascending rest := by
  simp [Ascending, keys]

theorem Ascending.insert (h : Ascending members) : Ascending (insert key value members) := by
  induction members with
  | nil => simp [Members.insert, Ascending, keys]
  | cons n rest ih =>
    obtain ⟨hn, hr⟩ := ascending_cons.mp h
    unfold Members.insert
    split
    · next hk =>
      refine ascending_cons.mpr ⟨?_, h⟩
      intro m hm
      rcases List.mem_cons.mp hm with rfl | hm
      · exact hk
      · exact String.lt_trans hk (hn m hm)
    · next hk =>
      split
      · next he =>
        subst he
        exact ascending_cons.mpr ⟨hn, hr⟩
      · next he =>
        refine ascending_cons.mpr ⟨?_, ih hr⟩
        intro m hm
        rcases mem_insert hm with rfl | hm
        · exact String.not_le.mp fun hl => he (String.le_antisymm hl (String.not_lt.mp hk))
        · exact hn m hm

theorem insert_of_forall_lt (h : ∀ m ∈ members, m.1 < key) :
    insert key value members = members ++ [(key, value)] := by
  induction members with
  | nil => rfl
  | cons n rest ih =>
    obtain ⟨hn, hr⟩ := List.forall_mem_cons.mp h
    have hl : ¬ key < n.1 := String.lt_asymm hn
    have he : key ≠ n.1 := fun he => String.lt_irrefl _ (he ▸ hn)
    rw [Members.insert, if_neg hl, if_neg he, ih hr, List.cons_append]

theorem ofList_of_ascending (h : Ascending members) : ofList members = members := by
  have key (acc rest : Members) (h : Ascending (acc ++ rest)) :
      rest.foldl (fun acc m => insert m.1 m.2 acc) acc = acc ++ rest := by
    induction rest generalizing acc with
    | nil => rw [List.foldl_nil, List.append_nil]
    | cons m rest ih =>
      have hm : ∀ n ∈ acc, n.1 < m.1 := by
        intro n hn
        rw [Ascending, keys, List.map_append, List.pairwise_append] at h
        exact h.2.2 n.1 (List.mem_map_of_mem hn) m.1 (by simp)
      rw [List.foldl_cons, insert_of_forall_lt hm, ih, List.append_assoc, List.singleton_append]
      rwa [List.append_assoc]
  exact key [] members h

end Members

end Toolflow.Json
