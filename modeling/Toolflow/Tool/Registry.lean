import Toolflow.Tool.Basic

/-!
The tools of an engine, one for a name.
-/

namespace Toolflow

structure Registry where
  tools : List Tool := []
  nodup : (tools.map Tool.name).Nodup := by simp

namespace Registry

def size (r : Registry) : Nat :=
  r.tools.length

def get? (r : Registry) (name : ToolName) : Option Tool :=
  r.tools.find? fun t => t.name = name

def contains (r : Registry) (name : ToolName) : Bool :=
  (r.get? name).isSome

def others (r : Registry) (name : ToolName) : List Tool :=
  r.tools.filter fun t => t.name ≠ name

/-- Adds a tool in place of any tool of the same name. -/
def register (r : Registry) (t : Tool) : Registry where
  tools := r.others t.name ++ [t]
  nodup := by
    rw [List.map_append, List.nodup_append]
    refine ⟨r.nodup.sublist (List.filter_sublist.map Tool.name), by simp, fun a ha b hb => ?_⟩
    obtain ⟨u, hu, rfl⟩ := List.mem_map.1 ha
    rw [List.map_singleton, List.mem_singleton] at hb
    have h : u.name ≠ t.name := by simpa using (List.mem_filter.1 hu).2
    exact fun hab => h (hab.trans hb)

theorem name_of_get? {r : Registry} {name : ToolName} {t : Tool} (h : r.get? name = some t) :
    t.name = name := by
  simpa using List.find?_some h

theorem find?_others (r : Registry) (name other : ToolName) :
    (r.others name).find? (fun t => t.name = other) = if other = name then none
      else r.get? other := by
  unfold others get?
  rw [List.find?_filter]
  split
  · next h =>
    rw [List.find?_eq_none]
    simp [h]
  · next h =>
    congr 1
    funext t
    by_cases ht : t.name = other
    · simp [ht, h]
    · simp [ht]

theorem get?_register (r : Registry) (t : Tool) (name : ToolName) :
    (r.register t).get? name = if name = t.name then some t else r.get? name := by
  have h := find?_others r t.name name
  unfold get? at h ⊢
  simp only [register, List.find?_append, h]
  split
  · next hn => simp [hn]
  · next hn => simp [Ne.symm hn]

end Registry

end Toolflow
