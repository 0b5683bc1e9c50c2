import Toolflow.Cache.Key
import Toolflow.Json.Value
import Toolflow.Tool.Name

/-!
The store behind cache keys. An item ages on two clocks: from the moment it was put on the steady
clock (`outlived`), and from the time it is stamped with (`stale`). Look-ups miss items that are
either; only the first kind is dropped by `purge`. Main statements: `find?_put`, `find?_remove`.
-/

namespace Toolflow.Cache

open Json

structure Item where
  key : String
  data : Value
  /-- The tool that the data came from. -/
  producer : ToolName
  /-- When it was made, in nanoseconds since the start of 1970. -/
  stamp : Int
  /-- When it was put, on the steady clock. -/
  putAt : Nat

structure Store where
  /-- Nanoseconds that an item can be retrieved for. -/
  lifespan : Nat
  items : List Item := []
  nodup : (items.map Item.key).Nodup := by exact List.nodup_nil

namespace Store

def size (s : Store) : Nat :=
  s.items.length

def find? (s : Store) (key : String) : Option Item :=
  s.items.find? fun i => i.key = key

def keep (s : Store) (p : Item → Bool) : Store where
  lifespan := s.lifespan
  items := s.items.filter p
  nodup := s.nodup.sublist (List.filter_sublist.map Item.key)

def remove (s : Store) (key : String) : Store :=
  s.keep fun i => i.key ≠ key

theorem key_notMem_remove (s : Store) (key : String) : key ∉ (s.remove key).items.map Item.key := by
  simp [remove, keep]

/-- Puts an item in place of any item of the same key. -/
def put (s : Store) (i : Item) : Store where
  lifespan := s.lifespan
  items := (s.remove i.key).items ++ [i]
  nodup := by
    have h := key_notMem_remove s i.key
    rw [List.map_append, List.nodup_append]
    refine ⟨(s.remove i.key).nodup, by simp, fun a ha b hb hab => ?_⟩
    rw [hab, List.mem_singleton.1 hb] at ha
    exact h ha

def clear (s : Store) : Store where
  lifespan := s.lifespan

/-- Whether an item has been in the store for its whole lifespan. -/
def outlived (s : Store) (now : Reading) (i : Item) : Bool :=
  s.lifespan ≤ now.uptime - i.putAt

/-- Whether an item was made longer ago than its lifespan. -/
def stale (s : Store) (now : Reading) (i : Item) : Bool :=
  s.lifespan < now.time - i.stamp

/-- Looks an item up and leaves it there, unless it has outlived its lifespan. -/
def get (s : Store) (now : Reading) (key : String) : Option Item × Store :=
  match s.find? key with
  | none => (none, s)
  | some i =>
    if s.outlived now i then (none, s.remove key)
    else if s.stale now i then (none, s)
    else (some i, s)

/-- Takes an item out. -/
def take (s : Store) (now : Reading) (key : String) : Option Item × Store :=
  ((s.find? key).filter fun i => !s.outlived now i && !s.stale now i, s.remove key)

/-- Removes an item and tells whether it was there and had not outlived its lifespan. -/
def delete (s : Store) (now : Reading) (key : String) : Bool × Store :=
  ((s.find? key).any fun i => !s.outlived now i, s.remove key)

/-- Drops the items that have outlived their lifespan and counts them. -/
def purge (s : Store) (now : Reading) : Nat × Store :=
  (s.items.countP (s.outlived now), s.keep fun i => !s.outlived now i)

@[simp]
theorem find?_remove (s : Store) (key other : String) :
    (s.remove key).find? other = if other = key then none else s.find? other := by
  unfold find? remove keep
  rw [List.find?_filter]
  split
  · next h =>
    rw [List.find?_eq_none]
    simp [h]
  · next h =>
    congr 1
    funext i
    by_cases hi : i.key = other
    · simp [hi, h]
    · simp [hi]

@[simp]
theorem find?_put (s : Store) (i : Item) (key : String) :
    (s.put i).find? key = if key = i.key then some i else s.find? key := by
  have h := find?_remove s i.key key
  unfold find? at h ⊢
  simp only [put, List.find?_append, h]
  split
  · next hk => simp [hk]
  · next hk => simp [Ne.symm hk]

end Store

end Toolflow.Cache
