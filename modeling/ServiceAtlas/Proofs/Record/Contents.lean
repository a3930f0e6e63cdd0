import ServiceAtlas.Proofs.Record.Cursors

/-!
# The contents of collections

What collections hold once their cursors are left out. A write changes the contents at their ends
alone, and while every cursor is on the last instance a write to the collections is that change.
-/
namespace ServiceAtlas

/-- A value for one field. -/
structure Write (s : Schema) where
  address : Address s
  value : address.Carrier

/-- The instance lists of a schema. -/
def Contents : Schema → Type
  | .nil => Unit
  | .cons _ _ fields nested rest => List (Instance fields (Contents nested)) × Contents rest

namespace Contents

def empty : {s : Schema} → Contents s
  | .nil => ()
  | .cons .. => ([], empty)

section
variable {fields : List Field} {nested : Schema}

/-- An instance without values. -/
def blank : Instance fields (Contents nested) := ⟨Row.blank, empty⟩

def isSet (slot : Slot fields) (i : Instance fields (Contents nested)) : Bool :=
  (i.values.get slot).isSome

def setValue (slot : Slot fields) (v : slot.field.type.Carrier)
    (i : Instance fields (Contents nested)) : Instance fields (Contents nested) :=
  { i with values := i.values.set slot v }

def changeNested (f : Contents nested → Contents nested) (i : Instance fields (Contents nested)) :
    Instance fields (Contents nested) := { i with nested := f i.nested }

end

/-- Writes a value at the end of the addressed instance lists. -/
def write : {s : Schema} → (a : Address s) → a.Carrier → Contents s → Contents s
  | .cons .., .scalar slot, v, (is, rest) =>
    (Last.assign blank (isSet slot) (setValue slot v) is, rest)
  | .cons .., .inside a, v, (is, rest) => (Last.modify blank (changeNested (write a v)) is, rest)
  | .cons .., .beside a, v, (is, rest) => (is, rest.write a v)

end Contents

namespace Collections

/-- The instance lists of some collections at every depth. -/
def contents : {s : Schema} → Collections s → Contents s
  | .nil, () => ()
  | .cons .., (c, rest) => (c.instances.map fun i => ⟨i.values, i.nested.contents⟩, rest.contents)

@[simp] theorem contents_empty {s : Schema} : (empty : Collections s).contents = Contents.empty := by
  induction s with
  | nil => rfl
  | cons key keyword fields nested rest ihn ihr =>
    rw [empty, contents, Contents.empty, ihr]
    rfl

section
variable {fields : List Field} {nested : Schema}

/-- An instance with the contents of its nested collections. -/
def view (i : Instance fields (Collections nested)) : Instance fields (Contents nested) :=
  ⟨i.values, i.nested.contents⟩

@[simp] theorem view_freshInstance :
    view (freshInstance : Instance fields (Collections nested)) = Contents.blank := by
  simp [view, freshInstance, Contents.blank]

end

/-- Releasing cursors leaves the contents as they are. -/
@[simp] theorem contents_release {s : Schema} (c : Collections s) :
    c.release.contents = c.contents := by
  induction s with
  | nil => rfl
  | cons key keyword fields nested rest ihn ihr =>
    obtain ⟨c, cs⟩ := c
    change (List.map view (List.map _ c.instances), cs.release.contents) =
      (List.map view c.instances, cs.contents)
    rw [ihr, List.map_map]
    congr 2
    funext i
    simp [view, ihn]

/-- A write changes the contents as if there were no cursors. -/
theorem contents_write {s : Schema} {a : Address s} (v : a.Carrier) {c : Collections s}
    (h : c.CursorsOnLast) : (c.write a v).contents = c.contents.write a v := by
  induction a with
  | scalar slot =>
    obtain ⟨c, cs⟩ := c
    change ((c.assign _ _ _).instances.map view, cs.contents) =
      (Last.assign _ (Contents.isSet slot) (Contents.setValue slot v) (c.instances.map view), _)
    rw [Collection.CursorOnLast.assign_eq h.1 (by simp [freshInstance]),
      Collection.onLast_instances, ← view_freshInstance]
    congr 1
    exact Last.map_assign view (fun _ _ => rfl) rfl rfl
  | inside a ih =>
    obtain ⟨c, cs⟩ := c
    obtain ⟨hc, hn, _⟩ := h
    change ((c.modifyCurrent _ _).instances.map view, cs.contents) =
      (Last.modify _ (Contents.changeNested (Contents.write a v)) (c.instances.map view), _)
    rw [Collection.CursorOnLast.modifyCurrent_eq hc, Collection.onLast_instances,
      ← view_freshInstance]
    have hf := ih v (cursorsOnLast_get hn)
    congr 1
    refine Last.map_modify view ?_
    simp only [view, Contents.changeNested, hf]
  | beside a ih =>
    obtain ⟨c, cs⟩ := c
    exact congrArg (Prod.mk _) (ih v h.2.2)

end Collections
end ServiceAtlas
