import Mathlib.Data.List.Nodup
import Toolflow.Engine.Session
import Toolflow.Tool.Scripted

/-!
What the operations of an engine do to the parts of a session: the store, the calls and the
generated keys. Only a call of a tool adds to the calls, and only keeping a payload adds to the
keys. Main statements: `find?_deleteAll`, `find?_purge`.
-/

namespace Toolflow

open Json Cache

namespace Cache.Store

theorem mem_of_find? {s : Store} {key : String} {i : Item} (h : s.find? key = some i) :
    i ∈ s.items :=
  List.mem_of_find?_eq_some h

theorem key_of_find? {s : Store} {key : String} {i : Item} (h : s.find? key = some i) :
    i.key = key := by
  simpa using List.find?_some h

theorem find?_eq_some_iff (s : Store) (key : String) (i : Item) :
    s.find? key = some i ↔ i ∈ s.items ∧ i.key = key := by
  constructor
  · intro h
    exact ⟨mem_of_find? h, key_of_find? h⟩
  · rintro ⟨hi, rfl⟩
    have hs : (s.find? i.key).isSome := List.find?_isSome.mpr ⟨i, hi, by simp⟩
    obtain ⟨j, hj⟩ := Option.isSome_iff_exists.mp hs
    have hij : j = i := List.inj_on_of_nodup_map s.nodup (mem_of_find? hj) hi (key_of_find? hj)
    rw [hj, hij]

/-- Keys are unique, so an item that is kept is still found and one that is not leaves its key
free. -/
@[simp]
theorem find?_keep (s : Store) (p : Item → Bool) (key : String) :
    (s.keep p).find? key = (s.find? key).filter p := by
  apply Option.ext
  intro i
  rw [find?_eq_some_iff, Option.filter_eq_some_iff, find?_eq_some_iff]
  simp only [keep, List.mem_filter]
  exact and_right_comm

theorem keep_eq_self {s : Store} {p : Item → Bool} (h : ∀ i ∈ s.items, p i = true) :
    s.keep p = s := by
  obtain ⟨lifespan, items, nodup⟩ := s
  simp only [keep, List.filter_eq_self.mpr h]

@[simp]
theorem keep_keep (s : Store) (p q : Item → Bool) :
    (s.keep p).keep q = s.keep fun i => q i && p i := by
  simp only [keep, List.filter_filter]

theorem items_put {s : Store} {i : Item} (h : s.find? i.key = none) :
    (s.put i).items = s.items ++ [i] := by
  have hr : s.remove i.key = s := keep_eq_self fun j hj =>
    by simpa using List.find?_eq_none.mp h j hj
  exact congrArg (fun t : Store => t.items ++ [i]) hr

end Cache.Store

/-- No tool is called and no key generated from one session to the other. -/
structure Session.Quiet (s t : Session) : Prop where
  calls : t.calls = s.calls
  keys : t.keys = s.keys

namespace Session.Quiet

theorem refl (s : Session) : s.Quiet s :=
  ⟨rfl, rfl⟩

theorem trans {s t u : Session} (h : s.Quiet t) (h' : t.Quiet u) : s.Quiet u :=
  ⟨h'.calls.trans h.calls, h'.keys.trans h.keys⟩

theorem after (s : Session) (store : Store) : s.Quiet (s.after store) :=
  ⟨rfl, rfl⟩

theorem note (s : Session) (a : Access) : s.Quiet (s.note a) :=
  ⟨rfl, rfl⟩

end Session.Quiet

namespace Engine

variable (e : Engine)

theorem take_quiet (key : String) (s : Session) : s.Quiet (e.take key s).2 :=
  (Session.Quiet.after s _).trans (.note _ _)

theorem delete_quiet (key : String) (s : Session) : s.Quiet (e.delete key s).2 :=
  (Session.Quiet.after s _).trans (.note _ _)

theorem purge_quiet (s : Session) : s.Quiet (e.purge s).2 :=
  .after s _

theorem deleteAll_quiet (keys : List String) (s : Session) : s.Quiet (e.deleteAll keys s) := by
  induction keys generalizing s with
  | nil => exact .refl s
  | cons key rest ih => exact (e.delete_quiet key s).trans (ih _)

@[simp]
theorem find?_keep (producer : ToolName) (data : Value) (s : Session) (key : String) :
    (e.keep producer data s).2.store.find? key =
      if key = e.nextKey s then some (e.itemNow s (e.nextKey s) data producer)
      else s.store.find? key :=
  Store.find?_put ..

@[simp]
theorem find?_take (s : Session) (key other : String) :
    (e.take other s).2.store.find? key = if key = other then none else s.store.find? key :=
  Store.find?_remove s.store other key

@[simp]
theorem find?_delete (s : Session) (key other : String) :
    (e.delete other s).2.store.find? key = if key = other then none else s.store.find? key :=
  Store.find?_remove s.store other key

@[simp]
theorem find?_deleteAll (keys : List String) (s : Session) (key : String) :
    (e.deleteAll keys s).store.find? key = if key ∈ keys then none else s.store.find? key := by
  induction keys generalizing s with
  | nil => simp [deleteAll]
  | cons k rest ih =>
    have h : (e.deleteAll (k :: rest) s).store.find? key =
        if key ∈ rest then none else (e.delete k s).2.store.find? key := ih _
    rw [h]
    by_cases hk : key = k <;> simp [hk]

@[simp]
theorem find?_purge (s : Session) (key : String) :
    (e.purge s).2.store.find? key =
      (s.store.find? key).filter fun i => !s.store.outlived (e.now s) i :=
  Store.find?_keep _ _ _

/-- An engine of scripted tools, whose clocks move on by a millisecond at each reading. -/
def rehearsal (config : Config) (scripts : List Script) : Engine where
  config
  registry := scripts.foldl (fun r s => r.register (s.tool 0)) {}
  reading n := ⟨n * 1000000, n * 1000000, ⟨Vector.replicate _ 0⟩⟩

end Engine

end Toolflow
