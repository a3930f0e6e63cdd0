import ServiceAtlas.Record.Basic

/-!
# Places of collections

A place is one collection of a schema, at any depth. A collection nested in another one shares its
instances, so that the order of writes to the two counts. Writes to places neither of which is
nested in the other can be exchanged, also where both are inside the same current instance, or
inside one that is still to be opened.
-/
namespace ServiceAtlas

/-- One collection of a schema: the first one, or one nested in its instances or beside it. -/
inductive Place : Schema → Type where
  | here {key keyword : String} {fields : List Field} {nested rest : Schema} :
    Place (.cons key keyword fields nested rest)
  | inside {key keyword : String} {fields : List Field} {nested rest : Schema} (p : Place nested) :
    Place (.cons key keyword fields nested rest)
  | beside {key keyword : String} {fields : List Field} {nested rest : Schema} (p : Place rest) :
    Place (.cons key keyword fields nested rest)
deriving DecidableEq

/-- The collection of the addressed field. -/
def Address.place : {s : Schema} → Address s → Place s
  | .cons .., scalar _ => .here
  | .cons .., inside a => .inside a.place
  | .cons .., beside a => .beside a.place

namespace Place

/-- The first place is the second one or is nested in it. -/
def Within : {s : Schema} → Place s → Place s → Prop
  | .cons .., here, here => True
  | .cons .., inside _, here => True
  | .cons .., beside _, here => False
  | .cons .., here, inside _ => False
  | .cons .., inside p, inside q => p.Within q
  | .cons .., beside _, inside _ => False
  | .cons .., here, beside _ => False
  | .cons .., inside _, beside _ => False
  | .cons .., beside p, beside q => p.Within q

instance instDecidableWithin : {s : Schema} → (p q : Place s) → Decidable (p.Within q)
  | .cons .., here, here => inferInstanceAs (Decidable True)
  | .cons .., inside _, here => inferInstanceAs (Decidable True)
  | .cons .., beside _, here => inferInstanceAs (Decidable False)
  | .cons .., here, inside _ => inferInstanceAs (Decidable False)
  | .cons .., inside p, inside q => instDecidableWithin p q
  | .cons .., beside _, inside _ => inferInstanceAs (Decidable False)
  | .cons .., here, beside _ => inferInstanceAs (Decidable False)
  | .cons .., inside _, beside _ => inferInstanceAs (Decidable False)
  | .cons .., beside p, beside q => instDecidableWithin p q

/-- Two places differ, and neither is nested in the other. -/
def Independent {s : Schema} (p q : Place s) : Prop := ¬ p.Within q ∧ ¬ q.Within p

instance {s : Schema} (p q : Place s) : Decidable (p.Independent q) :=
  inferInstanceAs (Decidable (¬ p.Within q ∧ ¬ q.Within p))

end Place

/-- Changes of the instance under the cursor are one change of it. -/
theorem Collection.modifyCurrent_modifyCurrent {α : Type} (fresh : α) (f g : α → α)
    (c : Collection α) :
    (c.modifyCurrent fresh f).modifyCurrent fresh g = c.modifyCurrent fresh (g ∘ f) := by
  obtain ⟨i, hi⟩ := exists_cursor_opened fresh c
  have hc : (c.modifyCurrent fresh f).cursor = some i := hi
  rw [modifyCurrent, opened_of_cursor hc, hc]
  simp [modifyCurrent, hi, List.modify_modify_eq]

namespace Collections

/-- Writes to independent places leave the same collections in either order, cursors included. -/
theorem write_comm {s : Schema} {a b : Address s} (h : a.place.Independent b.place)
    (v : a.Carrier) (w : b.Carrier) (c : Collections s) :
    (c.write a v).write b w = (c.write b w).write a v := by
  induction a with
  | @scalar key keyword fields nested rest slot =>
    cases b with
    | scalar other => exact absurd trivial h.1
    | inside b => exact absurd trivial h.2
    | beside b => rfl
  | @inside key keyword fields nested rest a ih =>
    cases b with
    | scalar slot => exact absurd trivial h.1
    | inside b =>
      obtain ⟨c, cs⟩ := c
      have hswap (i : Instance fields (Collections nested)) := ih h v w i.nested
      change ((c.modifyCurrent _ _).modifyCurrent _ _, cs) =
        ((c.modifyCurrent _ _).modifyCurrent _ _, cs)
      rw [Collection.modifyCurrent_modifyCurrent, Collection.modifyCurrent_modifyCurrent]
      congr 2
      funext i
      exact congrArg (Instance.mk i.values) (hswap i)
    | beside b => rfl
  | @beside key keyword fields nested rest a ih =>
    cases b with
    | scalar slot => rfl
    | inside b => rfl
    | beside b => exact congrArg (Prod.mk c.1) (ih h v w c.2)

end Collections
end ServiceAtlas
