import Mathlib.Data.List.Enum
import ServiceAtlas.Proofs.Record.Last
import ServiceAtlas.Record.Basic

/-!
# Cursors

Every cursor of a record is on the last instance of its collection, at every depth and inside
instances that are closed already. Writing and releasing keep this, so that a write finds each
cursor on its way on an instance, and leaves it on the last one.
-/
namespace ServiceAtlas
namespace Collections

/-- The size and the cursor of every collection at every depth meet a condition. -/
def Each (p : Nat → Option Nat → Prop) : {s : Schema} → Collections s → Prop
  | .nil, () => True
  | .cons .., (c, rest) => p c.size c.cursor ∧ (∀ i ∈ c.instances, i.nested.Each p) ∧ rest.Each p

theorem each_iff_extents (p : Nat → Option Nat → Prop) (outer : String) {s : Schema}
    (c : Collections s) : c.Each p ↔ ∀ e ∈ c.extents outer, p e.size e.cursor := by
  induction s generalizing outer with
  | nil =>
    change True ↔ ∀ e ∈ [], p _ _
    simp
  | cons key keyword fields nested rest ihn ihr =>
    obtain ⟨c, cs⟩ := c
    rw [Each, extents, List.cons_append, List.forall_mem_cons, List.forall_mem_append, ← ihr]
    refine and_congr_right fun _ => and_congr_left fun _ => ?_
    rw [List.forall_mem_flatMap, List.forall_mem_zipIdx', List.forall_mem_iff_forall_getElem]
    simp only [← ihn]

theorem each_empty {p : Nat → Option Nat → Prop} (h : p 0 none) {s : Schema} :
    (empty : Collections s).Each p := by
  induction s with
  | nil => trivial
  | cons key keyword fields nested rest ihn ihr => exact ⟨h, by simp, ihr⟩

/-- Releasing leaves the sizes as they are and no cursor at any depth. -/
theorem each_release {p : Nat → Option Nat → Prop} (h : ∀ n, p n none) {s : Schema}
    (c : Collections s) : c.release.Each p := by
  induction s with
  | nil => trivial
  | cons key keyword fields nested rest ihn ihr =>
    obtain ⟨c, cs⟩ := c
    refine ⟨h _, ?_, ihr cs⟩
    intro i hi
    obtain ⟨j, _, rfl⟩ := List.mem_map.mp hi
    exact ihn j.nested

/-- Every cursor at every depth is on the last instance. -/
def CursorsOnLast {s : Schema} (c : Collections s) : Prop :=
  c.Each fun size cursor => ∀ i ∈ cursor, i + 1 = size

theorem cursorsOnLast_empty {s : Schema} : (empty : Collections s).CursorsOnLast :=
  each_empty (by simp)

section
variable {fields : List Field} {nested : Schema}

theorem cursorsOnLast_get {is : List (Instance fields (Collections nested))}
    (h : ∀ i ∈ is, i.nested.CursorsOnLast) : (Last.get freshInstance is).nested.CursorsOnLast := by
  rcases Last.get_mem freshInstance is with hi | hi
  · rw [hi]
    exact cursorsOnLast_empty
  · exact h _ hi

end

theorem CursorsOnLast.write {s : Schema} {a : Address s} (v : a.Carrier) {c : Collections s}
    (h : c.CursorsOnLast) : (c.write a v).CursorsOnLast := by
  induction a with
  | scalar slot =>
    obtain ⟨c, cs⟩ := c
    obtain ⟨hc, hn, hr⟩ := h
    refine ⟨Collection.CursorOnLast.assign hc _ _ _, ?_, hr⟩
    rw [Collection.CursorOnLast.assign_eq hc (by simp [freshInstance]), Collection.onLast_instances]
    intro i hi
    rcases Last.mem_assign hi with hi | rfl | rfl
    · exact hn i hi
    · exact cursorsOnLast_empty
    · exact cursorsOnLast_get hn
  | inside a ih =>
    obtain ⟨c, cs⟩ := c
    obtain ⟨hc, hn, hr⟩ := h
    refine ⟨Collection.CursorOnLast.modifyCurrent hc _ _, ?_, hr⟩
    rw [Collection.CursorOnLast.modifyCurrent_eq hc, Collection.onLast_instances]
    intro i hi
    rcases Last.mem_modify hi with hi | rfl
    · exact hn i hi
    · exact ih v (cursorsOnLast_get hn)
  | beside a ih =>
    obtain ⟨c, cs⟩ := c
    obtain ⟨hc, hn, hr⟩ := h
    exact ⟨hc, hn, ih v hr⟩

theorem CursorsOnLast.release {s : Schema} (c : Collections s) : c.release.CursorsOnLast :=
  each_release (by simp) c

/-- Each index that a write to an address looks up, in the first collection and then in the
current instance inside it, is that of an instance. -/
def Reaches : {s : Schema} → Address s → Collections s → Prop
  | .cons .., .scalar _, (c, _) => ((c.opened freshInstance).current?).isSome
  | .cons .., .inside a, (c, _) =>
    ∃ i, (c.opened freshInstance).current? = some i ∧ i.nested.Reaches a
  | .cons .., .beside a, (_, rest) => rest.Reaches a

/-- Each collection on the way to an address has its cursor on its last instance, which holds the
next collection. -/
def Focused : {s : Schema} → Address s → Collections s → Prop
  | .cons .., .scalar _, (c, _) => ∃ i, c.EndsAt i
  | .cons .., .inside a, (c, _) => ∃ i, c.EndsAt i ∧ i.nested.Focused a
  | .cons .., .beside a, (_, rest) => rest.Focused a

theorem CursorsOnLast.reaches {s : Schema} (a : Address s) {c : Collections s}
    (h : c.CursorsOnLast) : c.Reaches a := by
  induction a with
  | scalar slot =>
    obtain ⟨c, cs⟩ := c
    change ((c.opened freshInstance).current?).isSome
    rw [Collection.CursorOnLast.opened_eq h.1, Collection.current?_onLast]
    rfl
  | inside a ih =>
    obtain ⟨c, cs⟩ := c
    obtain ⟨hc, hn, _⟩ := h
    change ∃ i, (c.opened freshInstance).current? = some i ∧ i.nested.Reaches a
    rw [Collection.CursorOnLast.opened_eq hc, Collection.current?_onLast]
    exact ⟨_, rfl, ih (cursorsOnLast_get hn)⟩
  | beside a ih =>
    obtain ⟨c, cs⟩ := c
    exact ih h.2.2

theorem CursorsOnLast.focused_write {s : Schema} {a : Address s} (v : a.Carrier)
    {c : Collections s} (h : c.CursorsOnLast) : (c.write a v).Focused a := by
  induction a with
  | scalar slot =>
    obtain ⟨c, cs⟩ := c
    change ∃ i, (c.assign _ _ _).EndsAt i
    rw [Collection.CursorOnLast.assign_eq h.1 (by simp [freshInstance])]
    obtain ⟨js, i, hjs⟩ := Last.exists_assign_eq_concat freshInstance _ _ c.instances
    rw [hjs]
    exact ⟨_, Collection.endsAt_onLast _ _⟩
  | inside a ih =>
    obtain ⟨c, cs⟩ := c
    obtain ⟨hc, hn, _⟩ := h
    change ∃ i, (c.modifyCurrent _ _).EndsAt i ∧ i.nested.Focused a
    rw [Collection.CursorOnLast.modifyCurrent_eq hc]
    exact ⟨_, Collection.endsAt_onLast _ _, ih v (cursorsOnLast_get hn)⟩
  | beside a ih =>
    obtain ⟨c, cs⟩ := c
    exact ih v h.2.2

end Collections
end ServiceAtlas
