import ServiceAtlas.Proofs.Extract.Operations

/-!
# No blank instances

An instance is made for a value, in one of its own fields or in a collection nested in it, and the
value is there by the end of the write that made it. No operation therefore leaves a blank instance
behind, wherever it stops, and a record is empty as long as no write has succeeded.
-/
namespace ServiceAtlas

/-- A value in one of the fields, or an instance in one of the nested collections. -/
def Instance.HoldsSome {fields : List Field} {nested : Schema}
    (i : Instance fields (Collections nested)) : Prop :=
  (∃ slot, (i.values.get slot).isSome) ∨ i.nested.isEmpty = false

namespace Collections

/-- No instance is blank, at any depth. -/
def Filled : {s : Schema} → Collections s → Prop
  | .nil, () => True
  | .cons .., (c, rest) => (∀ i ∈ c.instances, i.HoldsSome ∧ i.nested.Filled) ∧ rest.Filled

theorem filled_empty {s : Schema} : (empty : Collections s).Filled := by
  induction s with
  | nil => trivial
  | cons key keyword fields nested rest ihn ihr => exact ⟨by simp, ihr⟩

@[simp] theorem isEmpty_empty {s : Schema} : (empty : Collections s).isEmpty = true := by
  induction s with
  | nil => rfl
  | cons key keyword fields nested rest ihn ihr => exact ihr

@[simp] theorem isEmpty_release {s : Schema} (c : Collections s) :
    c.release.isEmpty = c.isEmpty := by
  induction s with
  | nil => rfl
  | cons key keyword fields nested rest ihn ihr =>
    obtain ⟨c, cs⟩ := c
    simp [release, isEmpty, Collection.isEmpty, ihr]

/-- A write leaves an instance behind. -/
theorem CursorsOnLast.isEmpty_write {s : Schema} {a : Address s} (v : a.Carrier)
    {c : Collections s} (h : c.CursorsOnLast) : (c.write a v).isEmpty = false := by
  induction a with
  | scalar slot =>
    obtain ⟨c, cs⟩ := c
    change ((c.assign _ _ _).isEmpty && cs.isEmpty) = false
    rw [Collection.CursorOnLast.assign_eq h.1 (by simp [freshInstance])]
    obtain ⟨js, i, hjs⟩ := Last.exists_assign_eq_concat freshInstance _ _ c.instances
    rw [hjs, Collection.isEmpty_onLast_concat, Bool.false_and]
  | inside a ih =>
    obtain ⟨c, cs⟩ := c
    change ((c.modifyCurrent _ _).isEmpty && cs.isEmpty) = false
    rw [Collection.CursorOnLast.modifyCurrent_eq h.1, Last.modify,
      Collection.isEmpty_onLast_concat, Bool.false_and]
  | beside a ih =>
    obtain ⟨c, cs⟩ := c
    change (c.isEmpty && (cs.write a v).isEmpty) = false
    rw [ih v h.2.2, Bool.and_false]

section
variable {fields : List Field} {nested : Schema}

theorem holdsSome_set (slot : Slot fields) (v : slot.field.type.Carrier)
    (i : Instance fields (Collections nested)) :
    Instance.HoldsSome { i with values := i.values.set slot v } :=
  Or.inl ⟨slot, by simp⟩

theorem filled_get {is : List (Instance fields (Collections nested))}
    (h : ∀ i ∈ is, i.HoldsSome ∧ i.nested.Filled) : (Last.get freshInstance is).nested.Filled := by
  rcases Last.get_mem freshInstance is with hi | hi
  · rw [hi]
    exact filled_empty
  · exact (h _ hi).2

end

theorem Filled.write {s : Schema} {a : Address s} (v : a.Carrier) {c : Collections s}
    (h : c.Filled) (hc : c.CursorsOnLast) : (c.write a v).Filled := by
  induction a with
  | scalar slot =>
    obtain ⟨c, cs⟩ := c
    obtain ⟨hi, hr⟩ := h
    refine ⟨?_, hr⟩
    rw [Collection.CursorOnLast.assign_eq hc.1 (by simp [freshInstance]), Collection.onLast_instances]
    intro i hmem
    rcases Last.mem_assign hmem with hmem | rfl | rfl
    · exact hi i hmem
    · exact ⟨holdsSome_set slot v _, filled_empty⟩
    · exact ⟨holdsSome_set slot v _, filled_get hi⟩
  | inside a ih =>
    obtain ⟨c, cs⟩ := c
    obtain ⟨hi, hr⟩ := h
    obtain ⟨hl, hn, -⟩ := hc
    refine ⟨?_, hr⟩
    rw [Collection.CursorOnLast.modifyCurrent_eq hl, Collection.onLast_instances]
    intro i hmem
    rcases Last.mem_modify hmem with hmem | rfl
    · exact hi i hmem
    · -- A fresh instance around the collection holds what the write puts into the collection.
      have hlast := cursorsOnLast_get hn
      have hsome := hlast.isEmpty_write (a := a) v
      exact ⟨Or.inr hsome, ih v (filled_get hi) hlast⟩
  | beside a ih =>
    obtain ⟨c, cs⟩ := c
    exact ⟨h.1, ih v h.2 hc.2.2⟩

theorem Filled.release {s : Schema} {c : Collections s} (h : c.Filled) : c.release.Filled := by
  induction s with
  | nil => trivial
  | cons key keyword fields nested rest ihn ihr =>
    obtain ⟨c, cs⟩ := c
    refine ⟨?_, ihr h.2⟩
    intro i hi
    obtain ⟨j, hj, rfl⟩ := List.mem_map.mp hi
    obtain ⟨hsome, hf⟩ := h.1 j hj
    have hnested : j.nested.release.isEmpty = j.nested.isEmpty := isEmpty_release j.nested
    exact ⟨hsome.imp id hnested.trans, ihn hf⟩

end Collections

namespace Record

theorem filled_apply {r : Record} (hc : r.collections.CursorsOnLast) (h : r.collections.Filled)
    (c : Change) : (r.apply c).collections.Filled := by
  cases c with
  | put w => exact h.write w.value hc
  | warn message => exact h
  | release => exact h.release

theorem collections_filled_after (ops : List Operation) : (after ops).collections.Filled := by
  -- A write leaves no blank instance where the cursors are on last instances.
  let P (r : Record) : Prop := r.collections.CursorsOnLast ∧ r.collections.Filled
  have hstep (r : Record) (c : Change) (h : P r) : P (r.apply c) :=
    ⟨cursorsOnLast_apply h.1 c, filled_apply h.1 h.2 c⟩
  exact (after_invariant hstep ⟨Collections.cursorsOnLast_empty, Collections.filled_empty⟩ ops).2

theorem isEmpty_apply {r : Record} (hc : r.collections.CursorsOnLast) (c : Change) :
    (r.apply c).isEmpty = (r.isEmpty && c.write?.isNone) := by
  cases c with
  | put w =>
    have h : (r.put w).isEmpty = false := hc.isEmpty_write w.value
    simp [apply, Change.write?, h]
  | warn message => exact (Bool.and_true _).symm
  | release =>
    have h : r.release.isEmpty = r.isEmpty := Collections.isEmpty_release r.collections
    simp [apply, Change.write?, h]

/-- A record that was empty is empty still unless there was a write. -/
theorem isEmpty_applyAll {r : Record} (hc : r.collections.CursorsOnLast) (cs : List Change) :
    (r.applyAll cs).isEmpty = (r.isEmpty && (cs.filterMap Change.write?).isEmpty) := by
  induction cs generalizing r with
  | nil => exact (Bool.and_true _).symm
  | cons c cs ih =>
    rw [applyAll_cons, ih (cursorsOnLast_apply hc c), isEmpty_apply hc c, List.filterMap_cons]
    cases c.write? <;> simp

/-- After any operations, also those that failed part way, no instance at any depth is blank, and
the record is empty exactly when no write of any of them has succeeded. -/
theorem filled_after (ops : List Operation) :
    (∀ (op : Operation) (r : Record),
      op.run.runOn r = (op.script.result, r.applyAll op.script.changes)) ∧
      (after ops).collections.Filled ∧
      ((after ops).isEmpty = true ↔ ∀ op ∈ ops, op.script.writes = []) := by
  refine ⟨Operation.performs_run, collections_filled_after ops, ?_⟩
  induction ops using List.reverseRecOn with
  | nil => simp [after, empty, isEmpty]
  | append_singleton ops op ih =>
    rw [after_concat, isEmpty_applyAll (cursorsOnLast_after ops), Bool.and_eq_true, ih,
      List.forall_mem_append, List.forall_mem_singleton, List.isEmpty_iff]
    rfl

end Record
end ServiceAtlas
