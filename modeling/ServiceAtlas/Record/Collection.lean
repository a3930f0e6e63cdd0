/-!
# Collections with a cursor

A collection is a list of instances and a cursor on the one that is being filled. A field that the
instance under the cursor already has opens a new instance, so that repeated blocks of a document
become instances of their own.
-/
namespace ServiceAtlas

structure Collection (α : Type) where
  instances : List α := []
  cursor : Option Nat := none
deriving DecidableEq, Repr

namespace Collection

variable {α : Type}

def size (c : Collection α) : Nat := c.instances.length

def isEmpty (c : Collection α) : Bool := c.instances.isEmpty

/-- The instance under the cursor. -/
def current? (c : Collection α) : Option α := c.cursor.bind (c.instances[·]?)

/-- The collection with its cursor on an instance. Where there is no cursor it goes to the last
instance, which is a `fresh` one if there was none. -/
def opened (fresh : α) (c : Collection α) : Collection α :=
  match c.cursor, c.instances with
  | some _, _ => c
  | none, [] => ⟨[fresh], some 0⟩
  | none, i :: is => ⟨i :: is, some is.length⟩

/-- Changes the instance under the cursor. -/
def modifyCurrent (fresh : α) (f : α → α) (c : Collection α) : Collection α :=
  let c := c.opened fresh
  { c with instances := c.cursor.elim c.instances fun i => c.instances.modify i f }

/-- Changes the instance under the cursor, or a `fresh` one behind it if that instance `isTaken`. -/
def assign (fresh : α) (isTaken : α → Bool) (f : α → α) (c : Collection α) : Collection α :=
  let c := c.opened fresh
  if c.current?.any isTaken then ⟨c.instances ++ [f fresh], some c.instances.length⟩
  else c.modifyCurrent fresh f

/-- The cursor, if there is one, is on the last instance. -/
def CursorOnLast (c : Collection α) : Prop := ∀ i ∈ c.cursor, i + 1 = c.size

instance (c : Collection α) : Decidable c.CursorOnLast :=
  inferInstanceAs (Decidable (∀ i ∈ c.cursor, i + 1 = c.size))

@[simp] theorem opened_of_cursor {c : Collection α} {i : Nat} (h : c.cursor = some i) (fresh : α) :
    c.opened fresh = c := by
  simp [opened, h]

theorem exists_cursor_opened (fresh : α) (c : Collection α) :
    ∃ i, (c.opened fresh).cursor = some i := by
  unfold opened
  split
  · next h => exact ⟨_, h⟩
  · exact ⟨0, rfl⟩
  · next is _ _ => exact ⟨is.length, rfl⟩

theorem CursorOnLast.opened {c : Collection α} (h : c.CursorOnLast) (fresh : α) :
    (c.opened fresh).CursorOnLast := by
  unfold Collection.opened
  split
  · exact h
  · simp [CursorOnLast, size]
  · simp [CursorOnLast, size]

theorem CursorOnLast.modifyCurrent {c : Collection α} (h : c.CursorOnLast) (fresh : α)
    (f : α → α) : (c.modifyCurrent fresh f).CursorOnLast := by
  have ho := h.opened fresh
  obtain ⟨i, hi⟩ := exists_cursor_opened fresh c
  simpa [Collection.modifyCurrent, CursorOnLast, size, hi] using ho

theorem CursorOnLast.assign {c : Collection α} (h : c.CursorOnLast) (fresh : α)
    (isTaken : α → Bool) (f : α → α) : (c.assign fresh isTaken f).CursorOnLast := by
  unfold Collection.assign
  dsimp only
  split
  · simp [CursorOnLast, size]
  · exact (h.opened fresh).modifyCurrent fresh f

end Collection
end ServiceAtlas
