import ServiceAtlas.Record.Collection
import ServiceAtlas.Record.Schema

/-!
# Records

The collections of a schema with their instances. An instance holds a value or nothing for each
scalar field, and its own nested collections. A record is the collections of `Schema.record` with
the warnings noticed while they were filled.
-/
namespace ServiceAtlas

/-- A value or nothing for each of some fields. -/
def Row : List Field → Type
  | [] => Unit
  | f :: fs => Option f.type.Carrier × Row fs

namespace Row

def blank : {fs : List Field} → Row fs
  | [] => ()
  | _ :: _ => (none, blank)

def get : {fs : List Field} → (slot : Slot fs) → Row fs → Option slot.field.type.Carrier
  | _ :: _, .here, (v, _) => v
  | _ :: _, .there slot, (_, row) => row.get slot

def set : {fs : List Field} → (slot : Slot fs) → slot.field.type.Carrier → Row fs → Row fs
  | _ :: _, .here, v, (_, row) => (some v, row)
  | _ :: _, .there slot, v, (w, row) => (w, row.set slot v)

@[simp] theorem get_blank : {fs : List Field} → (slot : Slot fs) → (blank : Row fs).get slot = none
  | _ :: _, .here => rfl
  | _ :: _, .there slot => get_blank slot

@[simp] theorem get_set : {fs : List Field} → (slot : Slot fs) → (v : slot.field.type.Carrier) →
    (row : Row fs) → (row.set slot v).get slot = some v
  | _ :: _, .here, _, _ => rfl
  | _ :: _, .there slot, v, (_, row) => get_set slot v row

theorem get_set_of_ne : {fs : List Field} → {slot other : Slot fs} → other ≠ slot →
    (v : slot.field.type.Carrier) → (row : Row fs) → (row.set slot v).get other = row.get other
  | _ :: _, .here, .here, h, _, _ => absurd rfl h
  | _ :: _, .here, .there _, _, _, _ => rfl
  | _ :: _, .there _, .here, _, _, _ => rfl
  | _ :: _, .there slot, .there other, h, v, (_, row) =>
    get_set_of_ne (fun e : other = slot => h (e ▸ rfl)) v row

instance instDecidableEq : (fs : List Field) → DecidableEq (Row fs)
  | [] => inferInstanceAs (DecidableEq Unit)
  | f :: fs =>
    have := instDecidableEq fs
    inferInstanceAs (DecidableEq (Option f.type.Carrier × Row fs))

end Row

structure Instance (fields : List Field) (Nested : Type) where
  values : Row fields
  nested : Nested
deriving DecidableEq

/-- The collections of a schema. -/
def Collections : Schema → Type
  | .nil => Unit
  | .cons _ _ fields nested rest =>
    Collection (Instance fields (Collections nested)) × Collections rest

namespace Collections

instance instDecidableEq : (s : Schema) → DecidableEq (Collections s)
  | .nil => inferInstanceAs (DecidableEq Unit)
  | .cons _ _ fields nested rest =>
    have := instDecidableEq nested
    have := instDecidableEq rest
    inferInstanceAs
      (DecidableEq (Collection (Instance fields (Collections nested)) × Collections rest))

def empty : {s : Schema} → Collections s
  | .nil => ()
  | .cons .. => ({}, empty)

/-- An instance without values. -/
def freshInstance {fields : List Field} {nested : Schema} : Instance fields (Collections nested) :=
  ⟨Row.blank, empty⟩

/-- Writes a value into the current instance of the addressed collection, under the current
instances of the collections around it. -/
def write : {s : Schema} → (a : Address s) → a.Carrier → Collections s → Collections s
  | .cons .., .scalar slot, v, (c, rest) =>
    (c.assign freshInstance (fun i => (i.values.get slot).isSome)
      fun i => { i with values := i.values.set slot v }, rest)
  | .cons .., .inside a, v, (c, rest) =>
    (c.modifyCurrent freshInstance fun i => { i with nested := i.nested.write a v }, rest)
  | .cons .., .beside a, v, (c, rest) => (c, rest.write a v)

/-- Drops every cursor at every depth. -/
def release : {s : Schema} → Collections s → Collections s
  | .nil, () => ()
  | .cons .., (c, rest) =>
    (⟨c.instances.map fun i => { i with nested := i.nested.release }, none⟩, rest.release)

/-- Whether the outermost collections are all empty. -/
def isEmpty : {s : Schema} → Collections s → Bool
  | .nil, () => true
  | .cons .., (c, rest) => c.isEmpty && rest.isEmpty

/-- The values of a field in the order of the instances, those of an outer instance together. -/
def values : {s : Schema} → (a : Address s) → Collections s → List a.Carrier
  | .cons .., .scalar slot, (c, _) => c.instances.filterMap fun i => i.values.get slot
  | .cons .., .inside a, (c, _) => c.instances.flatMap fun i => i.nested.values a
  | .cons .., .beside a, (_, rest) => rest.values a

/-- How far a collection goes: its place, its size and its cursor. -/
structure Extent where
  place : String
  size : Nat
  cursor : Option Nat
deriving DecidableEq, Repr

/-- The extent of every collection at every depth, its place beginning with `outer`. -/
def extents (outer : String) : {s : Schema} → Collections s → List Extent
  | .nil, () => []
  | .cons key .., (c, rest) =>
    ⟨outer ++ key, c.size, c.cursor⟩ ::
      (c.instances.zipIdx.flatMap fun (i, n) => i.nested.extents (s!"{outer}{key}[{n}]."))
      ++ rest.extents outer

/-- Every collection at every depth has no cursor. -/
def Released {s : Schema} (c : Collections s) : Prop := ∀ e ∈ c.extents "", e.cursor = none

instance {s : Schema} (c : Collections s) : Decidable c.Released :=
  inferInstanceAs (Decidable (∀ e ∈ c.extents "", e.cursor = none))

end Collections

/-- What was read off a document, with the soft conditions noticed on the way. -/
structure Record where
  collections : Collections Schema.record := Collections.empty
  warnings : List String := []
deriving DecidableEq

namespace Record

def empty : Record := {}

def write (a : Address Schema.record) (v : a.Carrier) (r : Record) : Record :=
  { r with collections := r.collections.write a v }

def warn (message : String) (r : Record) : Record :=
  { r with warnings := r.warnings ++ [message] }

def release (r : Record) : Record := { r with collections := r.collections.release }

def isEmpty (r : Record) : Bool := r.collections.isEmpty

def values (a : Address Schema.record) (r : Record) : List a.Carrier := r.collections.values a

end Record
end ServiceAtlas
