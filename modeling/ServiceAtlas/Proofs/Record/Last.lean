import Mathlib.Data.List.Basic
import ServiceAtlas.Record.Collection

/-! The last of some instances: a collection whose cursor is on its last instance changes like
the bare list of its instances, which is read and changed at its end only. -/
namespace ServiceAtlas

namespace Last

variable {α β : Type}

/-- The last of some instances, or a `fresh` one if there is none. -/
def get (fresh : α) (is : List α) : α := is.getLast?.getD fresh

/-- Changes the last of some instances, or a `fresh` one if there is none. -/
def modify (fresh : α) (f : α → α) (is : List α) : List α := is.dropLast ++ [f (get fresh is)]

/-- Changes the last of some instances, or a `fresh` one behind it if it `isTaken`. -/
def assign (fresh : α) (isTaken : α → Bool) (f : α → α) (is : List α) : List α :=
  if is.getLast?.any isTaken then is ++ [f fresh] else modify fresh f is

@[simp] theorem get_nil (fresh : α) : get fresh [] = fresh := rfl

@[simp] theorem get_concat (fresh i : α) (is : List α) : get fresh (is ++ [i]) = i := by simp [get]

theorem dropLast_append_get (fresh : α) {is : List α} (h : is ≠ []) :
    is.dropLast ++ [get fresh is] = is := by
  rcases is.eq_nil_or_concat' with rfl | ⟨is, i, rfl⟩
  · exact absurd rfl h
  · simp

theorem get_mem (fresh : α) (is : List α) : get fresh is = fresh ∨ get fresh is ∈ is := by
  cases h : is.getLast? with
  | none => exact Or.inl (by simp [get, h])
  | some i => exact Or.inr (by simpa [get, h] using List.mem_of_getLast? h)

@[simp] theorem modify_nil (fresh : α) (f : α → α) : modify fresh f [] = [f fresh] := rfl

@[simp] theorem modify_concat (fresh i : α) (f : α → α) (is : List α) :
    modify fresh f (is ++ [i]) = is ++ [f i] := by simp [modify]

@[simp] theorem assign_nil (fresh : α) (isTaken : α → Bool) (f : α → α) :
    assign fresh isTaken f [] = [f fresh] := by simp [assign]

theorem assign_concat (fresh i : α) (isTaken : α → Bool) (f : α → α) (is : List α) :
    assign fresh isTaken f (is ++ [i]) = if isTaken i then is ++ [i] ++ [f fresh] else is ++ [f i] := by
  simp [assign]

theorem assign_cons (fresh i : α) (isTaken : α → Bool) (f : α → α) {is : List α} (h : is ≠ []) :
    assign fresh isTaken f (i :: is) = i :: assign fresh isTaken f is := by
  rcases is.eq_nil_or_concat' with rfl | ⟨is, j, rfl⟩
  · exact absurd rfl h
  · rw [← List.cons_append, assign_concat, assign_concat]
    split <;> rfl

theorem assign_of_not_taken (fresh : α) (f : α → α) (is : List α) :
    assign fresh (fun _ => false) f is = modify fresh f is := by
  cases h : is.getLast? <;> simp [assign, h]

theorem exists_assign_eq_concat (fresh : α) (isTaken : α → Bool) (f : α → α) (is : List α) :
    ∃ js i, assign fresh isTaken f is = js ++ [f i] := by
  unfold assign
  split
  · exact ⟨is, fresh, rfl⟩
  · exact ⟨is.dropLast, get fresh is, rfl⟩

theorem mem_modify {fresh i : α} {f : α → α} {is : List α} (h : i ∈ modify fresh f is) :
    i ∈ is ∨ i = f (get fresh is) := by
  rcases List.mem_append.mp h with h | h
  · exact Or.inl (List.dropLast_subset is h)
  · exact Or.inr (List.mem_singleton.mp h)

theorem mem_assign {fresh i : α} {isTaken : α → Bool} {f : α → α} {is : List α}
    (h : i ∈ assign fresh isTaken f is) : i ∈ is ∨ i = f fresh ∨ i = f (get fresh is) := by
  unfold assign at h
  split at h
  · rcases List.mem_append.mp h with h | h
    · exact Or.inl h
    · exact Or.inr (Or.inl (List.mem_singleton.mp h))
  · rcases mem_modify h with h | h
    · exact Or.inl h
    · exact Or.inr (Or.inr h)

theorem map_modify (g : α → β) {fresh : α} {f : α → α} {f' : β → β} {is : List α}
    (hf : g (f (get fresh is)) = f' (g (get fresh is))) :
    (modify fresh f is).map g = modify (g fresh) f' (is.map g) := by
  have hget : get (g fresh) (is.map g) = g (get fresh is) := by simp [get]
  rw [modify, modify, hget, List.map_append, List.map_dropLast, List.map_singleton, hf]

theorem map_assign (g : α → β) {fresh : α} {isTaken : α → Bool} {isTaken' : β → Bool}
    {f : α → α} {f' : β → β} {is : List α} (ht : ∀ i ∈ is, isTaken i = isTaken' (g i))
    (hfresh : g (f fresh) = f' (g fresh)) (hf : g (f (get fresh is)) = f' (g (get fresh is))) :
    (assign fresh isTaken f is).map g = assign (g fresh) isTaken' f' (is.map g) := by
  have hany : (is.map g).getLast?.any isTaken' = is.getLast?.any isTaken := by
    cases h : is.getLast? with
    | none => simp [h]
    | some i => simp [h, ht i (List.mem_of_getLast? h)]
  unfold assign
  rw [hany]
  split
  · rw [List.map_append, List.map_singleton, hfresh]
  · exact map_modify g hf

theorem flatMap_modify (g : α → List β) {fresh : α} {f : α → α} {is : List α} {xs : List β}
    (hfresh : g fresh = []) (hf : ∀ i, g (f i) = g i ++ xs) :
    (modify fresh f is).flatMap g = is.flatMap g ++ xs := by
  rcases is.eq_nil_or_concat' with rfl | ⟨is, i, rfl⟩
  · simp [hf, hfresh]
  · simp [hf]

theorem flatMap_assign (g : α → List β) {fresh : α} {isTaken : α → Bool} {f : α → α} {is : List α}
    {xs : List β} (hfresh : g (f fresh) = xs) (hf : ∀ i, isTaken i = false → g (f i) = g i ++ xs) :
    (assign fresh isTaken f is).flatMap g = is.flatMap g ++ xs := by
  rcases is.eq_nil_or_concat' with rfl | ⟨is, i, rfl⟩
  · simp [hfresh]
  · rw [assign_concat]
    split
    · simp [hfresh]
    · next h => simp [hf i (by simpa using h)]

theorem flatMap_modify_of_eq (g : α → List β) {fresh : α} {f : α → α} {is : List α}
    (hfresh : g fresh = []) (hf : ∀ i, g (f i) = g i) :
    (modify fresh f is).flatMap g = is.flatMap g := by
  have h : (modify fresh f is).flatMap g = is.flatMap g ++ [] :=
    flatMap_modify g hfresh fun i => (hf i).trans (List.append_nil _).symm
  rwa [List.append_nil] at h

theorem flatMap_assign_of_eq (g : α → List β) {fresh : α} {isTaken : α → Bool} {f : α → α}
    {is : List α} (hfresh : g (f fresh) = []) (hf : ∀ i, g (f i) = g i) :
    (assign fresh isTaken f is).flatMap g = is.flatMap g := by
  have h : (assign fresh isTaken f is).flatMap g = is.flatMap g ++ [] :=
    flatMap_assign g hfresh fun i _ => (hf i).trans (List.append_nil _).symm
  rwa [List.append_nil] at h

end Last

namespace Collection

variable {α : Type}

/-- A collection with its cursor on the last of its instances. -/
def onLast (is : List α) : Collection α := ⟨is, some (is.length - 1)⟩

@[simp] theorem onLast_instances (is : List α) : (onLast is).instances = is := rfl

@[simp] theorem current?_onLast (is : List α) (i : α) : (onLast (is ++ [i])).current? = some i := by
  simp [onLast, current?]

@[simp] theorem isEmpty_onLast_concat (is : List α) (i : α) :
    (onLast (is ++ [i])).isEmpty = false := by simp [isEmpty]

@[simp] theorem opened_onLast (fresh : α) (is : List α) : (onLast is).opened fresh = onLast is :=
  opened_of_cursor rfl fresh

theorem modifyCurrent_onLast (fresh i : α) (f : α → α) (is : List α) :
    (onLast (is ++ [i])).modifyCurrent fresh f = onLast (is ++ [f i]) := by
  rw [modifyCurrent, opened_onLast]
  simp [onLast, List.modify_eq_take_drop]

/-- The cursor is on the last instance, which is `i`. -/
def EndsAt (i : α) (c : Collection α) : Prop :=
  c.instances.getLast? = some i ∧ c.cursor = some (c.size - 1)

theorem endsAt_onLast (is : List α) (i : α) : (onLast (is ++ [i])).EndsAt i :=
  ⟨List.getLast?_concat, rfl⟩

theorem CursorOnLast.opened_eq {c : Collection α} (h : c.CursorOnLast) (fresh : α) :
    c.opened fresh = onLast (c.instances.dropLast ++ [Last.get fresh c.instances]) := by
  obtain ⟨is, cursor⟩ := c
  cases is with
  | nil =>
    cases cursor with
    | none => rfl
    | some n => exact absurd (h n rfl) (by simp [size])
  | cons i is =>
    rw [Last.dropLast_append_get fresh (List.cons_ne_nil i is)]
    cases cursor with
    | none => rfl
    | some n =>
      have hn : n = is.length := by simpa [size] using h n rfl
      simp [Collection.opened, onLast, hn]

theorem CursorOnLast.modifyCurrent_eq {c : Collection α} (h : c.CursorOnLast) (fresh : α)
    (f : α → α) : c.modifyCurrent fresh f = onLast (Last.modify fresh f c.instances) := by
  have ho : c.modifyCurrent fresh f = (c.opened fresh).modifyCurrent fresh f := by
    rw [h.opened_eq, Collection.modifyCurrent, Collection.modifyCurrent, opened_onLast, h.opened_eq]
  rw [ho, h.opened_eq, modifyCurrent_onLast]
  rfl

theorem CursorOnLast.assign_eq {c : Collection α} (h : c.CursorOnLast) {fresh : α}
    {isTaken : α → Bool} (hfresh : isTaken fresh = false) (f : α → α) :
    c.assign fresh isTaken f = onLast (Last.assign fresh isTaken f c.instances) := by
  have ho := h.opened_eq fresh
  unfold Collection.assign
  rw [ho]
  dsimp only
  rw [current?_onLast, modifyCurrent_onLast, Option.any_some]
  rcases c.instances.eq_nil_or_concat' with hnil | ⟨is, i, his⟩
  · simp [hnil, hfresh]
  · rw [his, List.dropLast_concat, Last.get_concat, Last.assign_concat]
    split <;> simp [onLast]

end Collection
end ServiceAtlas
