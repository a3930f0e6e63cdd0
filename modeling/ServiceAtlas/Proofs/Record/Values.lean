import ServiceAtlas.Proofs.Record.Contents

/-!
# Values of a field

The values of a field are read in the order of the instances, those of an outer instance together.
A write puts its value behind the values of its own field, and leaves every other field alone.
-/
namespace ServiceAtlas

namespace Write

variable {s : Schema}

/-- The value that a write has for a field, if it is to that field. -/
def valueAt (b : Address s) (w : Write s) : Option b.Carrier :=
  if h : w.address = b then some (h ▸ w.value) else none

@[simp] theorem valueAt_self (a : Address s) (v : a.Carrier) : valueAt a ⟨a, v⟩ = some v := by
  simp [valueAt]

theorem valueAt_of_ne {a b : Address s} (h : a ≠ b) (v : a.Carrier) : valueAt b ⟨a, v⟩ = none := by
  simp [valueAt, h]

end Write

namespace Contents

/-- The values of a field in the order of the instances, those of an outer instance together. -/
def values : {s : Schema} → (a : Address s) → Contents s → List a.Carrier
  | .cons .., .scalar slot, (is, _) => is.flatMap fun i => (i.values.get slot).toList
  | .cons .., .inside a, (is, _) => is.flatMap fun i => i.nested.values a
  | .cons .., .beside a, (_, rest) => rest.values a

@[simp] theorem values_empty {s : Schema} (a : Address s) : (empty : Contents s).values a = [] := by
  induction a with
  | scalar slot => rfl
  | inside a ih => rfl
  | beside a ih => exact ih

section
variable {fields : List Field} {nested : Schema}

theorem get_setValue (slot : Slot fields) (v : slot.field.type.Carrier)
    (i : Instance fields (Contents nested)) : (setValue slot v i).values.get slot = some v :=
  Row.get_set slot v i.values

theorem get_setValue_of_ne {slot other : Slot fields} (h : other ≠ slot)
    (v : slot.field.type.Carrier) (i : Instance fields (Contents nested)) :
    (setValue slot v i).values.get other = i.values.get other :=
  Row.get_set_of_ne h v i.values

end

/-- A write puts its value behind those of its field. -/
theorem values_write_self {s : Schema} (a : Address s) (v : a.Carrier) (c : Contents s) :
    (c.write a v).values a = c.values a ++ [v] := by
  induction a with
  | scalar slot =>
    obtain ⟨is, rest⟩ := c
    refine Last.flatMap_assign _ (congrArg Option.toList (get_setValue slot v blank)) ?_
    intro i hi
    have hn : (i.values.get slot).toList = [] := by
      rw [Option.toList_eq_nil_iff]
      simpa [isSet] using hi
    have hv := congrArg Option.toList (get_setValue slot v i)
    exact hv.trans (congrArg (· ++ [v]) hn).symm
  | inside a ih =>
    obtain ⟨is, rest⟩ := c
    refine Last.flatMap_modify _ (values_empty a) ?_
    intro i
    exact ih v i.nested
  | beside a ih => exact ih v c.2

/-- A write leaves the values of every other field as they are. -/
theorem values_write_of_ne {s : Schema} {a b : Address s} (h : a ≠ b) (v : a.Carrier)
    (c : Contents s) : (c.write a v).values b = c.values b := by
  induction a with
  | @scalar key keyword fields nested rest slot =>
    obtain ⟨is, cs⟩ := c
    cases b with
    | scalar other =>
      have hne : other ≠ slot := fun e => h (e ▸ rfl)
      have hv (i : Instance fields (Contents nested)) :=
        congrArg Option.toList (get_setValue_of_ne hne v i)
      have hblank := (hv blank).trans (congrArg Option.toList (Row.get_blank other))
      exact Last.flatMap_assign_of_eq _ hblank fun i => hv i
    | inside b => exact Last.flatMap_assign_of_eq _ (values_empty b) fun _ => rfl
    | beside b => rfl
  | @inside key keyword fields nested rest a ih =>
    obtain ⟨is, cs⟩ := c
    cases b with
    | scalar other =>
      have hblank := congrArg Option.toList (Row.get_blank other)
      exact Last.flatMap_modify_of_eq _ hblank fun _ => rfl
    | inside b =>
      have hne : a ≠ b := fun e => h (e ▸ rfl)
      exact Last.flatMap_modify_of_eq _ (values_empty b) fun i => ih hne v i.nested
    | beside b => rfl
  | beside a ih =>
    cases b with
    | scalar other => rfl
    | inside b => rfl
    | beside b => exact ih (fun e => h (e ▸ rfl)) v c.2

/-- A write puts its value behind those of its field, and leaves every other field alone. -/
theorem values_write {s : Schema} (w : Write s) (b : Address s) (c : Contents s) :
    (c.write w.address w.value).values b = c.values b ++ (w.valueAt b).toList := by
  obtain ⟨a, v⟩ := w
  by_cases h : a = b
  · subst h
    rw [Write.valueAt_self]
    exact values_write_self a v c
  · rw [Write.valueAt_of_ne h, Option.toList_none, List.append_nil]
    exact values_write_of_ne h v c

end Contents

namespace Collection

section
variable {α β : Type} (g : α → List β) {fresh : α} {f : α → α}

theorem flatMap_modify (hf : ∀ i, g (f i) = g i) (is : List α) (n : Nat) :
    (is.modify n f).flatMap g = is.flatMap g := by
  induction is generalizing n with
  | nil => simp
  | cons i is ih =>
    cases n with
    | zero => simp [hf]
    | succ n => simp [ih]

theorem flatMap_opened (hfresh : g fresh = []) (c : Collection α) :
    (c.opened fresh).instances.flatMap g = c.instances.flatMap g := by
  obtain ⟨is, cursor⟩ := c
  cases cursor with
  | some n => rfl
  | none =>
    cases is with
    | nil => simp [opened, hfresh]
    | cons i is => rfl

theorem flatMap_modifyCurrent (hfresh : g fresh = []) (hf : ∀ i, g (f i) = g i)
    (c : Collection α) : (c.modifyCurrent fresh f).instances.flatMap g = c.instances.flatMap g := by
  obtain ⟨n, hn⟩ := exists_cursor_opened fresh c
  simp only [modifyCurrent, hn, Option.elim_some]
  rw [flatMap_modify g hf, flatMap_opened g hfresh]

theorem flatMap_assign (hfresh : g fresh = []) (hf : ∀ i, g (f i) = g i) (isTaken : α → Bool)
    (c : Collection α) :
    (c.assign fresh isTaken f).instances.flatMap g = c.instances.flatMap g := by
  have hopened := flatMap_opened g hfresh c
  unfold assign
  dsimp only
  split
  · rw [List.flatMap_append, List.flatMap_singleton, hf, hfresh, List.append_nil, hopened]
  · rw [flatMap_modifyCurrent g hfresh hf, hopened]

end
end Collection

namespace Collections

theorem values_scalar {key keyword : String} {fields : List Field} {nested rest : Schema}
    (slot : Slot fields) (c : Collections (.cons key keyword fields nested rest)) :
    c.values (.scalar slot) = c.1.instances.flatMap fun i => (i.values.get slot).toList :=
  List.filterMap_eq_flatMap_toList ..

theorem values_eq_contents {s : Schema} (a : Address s) (c : Collections s) :
    c.values a = c.contents.values a := by
  induction a with
  | scalar slot =>
    obtain ⟨c, cs⟩ := c
    have hf : (c.instances.flatMap fun i => (i.values.get slot).toList) =
        (c.instances.map view).flatMap fun i => (i.values.get slot).toList := by
      rw [List.flatMap_map]
      rfl
    exact (values_scalar slot _).trans hf
  | inside a ih =>
    obtain ⟨c, cs⟩ := c
    have hf : c.instances.flatMap (fun i => i.nested.values a) =
        (c.instances.map view).flatMap fun i => i.nested.values a := by
      rw [List.flatMap_map]
      exact List.flatMap_congr fun i _ => ih i.nested
    exact hf
  | beside a ih =>
    obtain ⟨c, cs⟩ := c
    exact ih cs

/-- A write puts its value behind those of its field, and leaves every other field alone. -/
theorem CursorsOnLast.values_write {s : Schema} {c : Collections s} (h : c.CursorsOnLast)
    (w : Write s) (b : Address s) :
    (c.write w.address w.value).values b = c.values b ++ (w.valueAt b).toList := by
  rw [values_eq_contents, values_eq_contents, contents_write w.value h, Contents.values_write w]

theorem values_empty {s : Schema} (a : Address s) : (empty : Collections s).values a = [] := by
  rw [values_eq_contents, contents_empty, Contents.values_empty]

/-- A write leaves the values of every other field as they are, wherever the cursors stand. -/
theorem values_write_of_ne {s : Schema} {a b : Address s} (h : a ≠ b) (v : a.Carrier)
    (c : Collections s) : (c.write a v).values b = c.values b := by
  induction a with
  | @scalar key keyword fields nested rest slot =>
    obtain ⟨c, cs⟩ := c
    cases b with
    | scalar other =>
      have hne : other ≠ slot := fun e => h (e ▸ rfl)
      refine (values_scalar other _).trans (Eq.trans ?_ (values_scalar other (c, cs)).symm)
      refine Collection.flatMap_assign _ ?_ ?_ _ c
      · exact congrArg Option.toList (Row.get_blank other)
      · exact fun i => congrArg Option.toList (Row.get_set_of_ne hne v i.values)
    | inside b =>
      refine Collection.flatMap_assign _ ?_ ?_ _ c
      · exact values_empty b
      · exact fun _ => rfl
    | beside b => rfl
  | @inside key keyword fields nested rest a ih =>
    obtain ⟨c, cs⟩ := c
    cases b with
    | scalar other =>
      refine (values_scalar other _).trans (Eq.trans ?_ (values_scalar other (c, cs)).symm)
      refine Collection.flatMap_modifyCurrent _ ?_ ?_ c
      · exact congrArg Option.toList (Row.get_blank other)
      · exact fun _ => rfl
    | inside b =>
      have hne : a ≠ b := fun e => h (e ▸ rfl)
      refine Collection.flatMap_modifyCurrent _ ?_ ?_ c
      · exact values_empty b
      · exact fun i => ih hne v i.nested
    | beside b => rfl
  | beside a ih =>
    cases b with
    | scalar other => rfl
    | inside b => rfl
    | beside b => exact ih (fun e => h (e ▸ rfl)) v c.2

end Collections
end ServiceAtlas
