import Mathlib.Data.List.Forall2

/-!
Computations that may fail. One that is made of several succeeds just if all of them do
(`bind_eq_ok`, `mapM_eq_ok_iff`), and if each of them stays as it is where it succeeds, so does the
whole (`Persists.bind`, `Persists.mapM`).
-/

namespace Toolflow

variable {ε α β : Type}

@[simp]
theorem bind_eq_ok {x : Except ε α} {f : α → Except ε β} {b : β} :
    x >>= f = .ok b ↔ ∃ a, x = .ok a ∧ f a = .ok b := by
  cases x <;> simp [bind, Except.bind]

@[simp]
theorem map_eq_ok {x : Except ε α} {f : α → β} {b : β} :
    f <$> x = .ok b ↔ ∃ a, x = .ok a ∧ f a = b := by
  cases x <;> simp [Functor.map, Except.map]

theorem mapM_eq_ok_iff {f : α → Except ε β} {items : List α} {xs : List β} :
    items.mapM f = .ok xs ↔ List.Forall₂ (fun a x => f a = .ok x) items xs := by
  induction items generalizing xs with
  | nil => simp [pure, Except.pure, eq_comm]
  | cons a rest ih =>
    rw [List.mapM_cons, bind_eq_ok, List.forall₂_cons_left_iff]
    constructor
    · rintro ⟨x, hx, h⟩
      obtain ⟨ys, hys, hxs⟩ := bind_eq_ok.mp h
      cases hxs
      exact ⟨x, ys, hx, ih.mp hys, rfl⟩
    · rintro ⟨x, ys, hx, hys, rfl⟩
      exact ⟨x, hx, bind_eq_ok.mpr ⟨ys, ih.mpr hys, rfl⟩⟩

theorem exists_of_mapM {f : α → Except ε β} {items : List α} {xs : List β}
    (h : items.mapM f = .ok xs) :
    ∀ a ∈ items, ∃ x, f a = .ok x := by
  have hf := mapM_eq_ok_iff.mp h
  clear h
  induction hf with
  | nil => exact List.forall_mem_nil _
  | cons ha _ ih => exact List.forall_mem_cons.mpr ⟨⟨_, ha⟩, ih⟩

theorem exists_of_forall₂ {R : α → β → Prop} {items : List α} {xs : List β} {x : β}
    (h : List.Forall₂ R items xs) (hx : x ∈ xs) : ∃ a ∈ items, R a x := by
  induction h with
  | nil => cases hx
  | cons ha _ ih =>
    obtain rfl | hx := List.mem_cons.mp hx
    · exact ⟨_, List.mem_cons_self, ha⟩
    · obtain ⟨a, hm, ha⟩ := ih hx
      exact ⟨a, List.mem_cons_of_mem _ hm, ha⟩

theorem exists_of_mem_mapM {f : α → Except ε β} {items : List α} {xs : List β} {x : β}
    (h : items.mapM f = .ok xs) (hx : x ∈ xs) : ∃ a ∈ items, f a = .ok x := by
  obtain ⟨a, hm, ha⟩ := exists_of_forall₂ (mapM_eq_ok_iff.mp h) hx
  exact ⟨a, hm, ha⟩

/-- If the first computation succeeds, so does the second, with the same result. -/
def Persists (x y : Except ε α) : Prop :=
  ∀ a, x = .ok a → y = .ok a

namespace Persists

variable {x y : Except ε α}

theorem refl (x : Except ε α) : Persists x x :=
  fun _ => id

theorem bind (h : Persists x y) {f g : α → Except ε β} (hf : ∀ a, Persists (f a) (g a)) :
    Persists (x >>= f) (y >>= g) := by
  intro b hb
  obtain ⟨a, ha, hb⟩ := bind_eq_ok.mp hb
  exact bind_eq_ok.mpr ⟨a, h a ha, hf a b hb⟩

theorem map (h : Persists x y) (f : α → β) : Persists (f <$> x) (f <$> y) := by
  intro b hb
  obtain ⟨a, ha, hb⟩ := map_eq_ok.mp hb
  exact map_eq_ok.mpr ⟨a, h a ha, hb⟩

theorem mapM {f g : α → Except ε β} {items : List α} (h : ∀ a ∈ items, Persists (f a) (g a)) :
    Persists (items.mapM f) (items.mapM g) := by
  induction items with
  | nil => exact refl _
  | cons a rest ih =>
    obtain ⟨ha, hr⟩ := List.forall_mem_cons.mp h
    rw [List.mapM_cons, List.mapM_cons]
    exact ha.bind fun _ => (ih hr).bind fun _ => refl _

end Persists

end Toolflow
