import Mathlib.Data.List.Flatten
import Mathlib.Data.List.Induction
import Mathlib.Data.List.Perm.Subperm
import Mathlib.Data.String.Basic
import ServiceAtlas.Template.Basic

/-!
# Children of a map node

The children of a node stand under different keys, sorted. Of the entries that have one key the last
is found under it, and no entry is left out where the keys are different from the start.
-/
namespace ServiceAtlas.TemplateNode

section
variable {α : Type}

def keys (entries : List (String × α)) : List String := entries.map Prod.fst

theorem lookup_cons (key other : String) (node : α) (children : List (String × α)) :
    ((key, node) :: children).lookup other =
      if other = key then some node else children.lookup other := by
  rw [List.lookup_cons]
  by_cases h : other = key
  · rw [if_pos h, beq_iff_eq.mpr h]
  · rw [if_neg h, beq_eq_false_iff_ne.mpr h]

theorem lookup_insertChild (key other : String) (node : α) (children : List (String × α)) :
    (insertChild key node children).lookup other =
      if other = key then some node else children.lookup other := by
  induction children with
  | nil => exact lookup_cons key other node []
  | cons entry children ih =>
    obtain ⟨first, child⟩ := entry
    unfold insertChild
    split
    · next heq =>
      subst heq
      by_cases h : other = key <;> simp only [lookup_cons, h, if_true, if_false]
    · next hne =>
      split
      · exact lookup_cons key other node _
      · rw [lookup_cons, lookup_cons, ih]
        by_cases h : other = first
        · simp [h, Ne.symm hne]
        · simp [h]

/-- A child takes the place of one that has its key. -/
theorem insertChild_subperm (key : String) (node : α) (children : List (String × α)) :
    (insertChild key node children).Subperm ((key, node) :: children) := by
  induction children with
  | nil => exact .refl _
  | cons entry children ih =>
    obtain ⟨first, child⟩ := entry
    unfold insertChild
    split
    · exact (List.subperm_cons _).mpr (List.sublist_cons_self _ children).subperm
    · split
      · exact .refl _
      · exact ((List.subperm_cons _).mpr ih).trans (List.Perm.swap _ _ children).subperm

theorem insertChild_perm {key : String} {children : List (String × α)} (h : key ∉ keys children)
    (node : α) : (insertChild key node children).Perm ((key, node) :: children) := by
  induction children with
  | nil => exact .refl _
  | cons entry children ih =>
    obtain ⟨first, child⟩ := entry
    obtain ⟨hne, hrest⟩ : key ≠ first ∧ key ∉ keys children := by simpa [keys] using h
    unfold insertChild
    rw [if_neg hne]
    split
    · exact .refl _
    · exact ((ih hrest).cons _).trans (.swap _ _ children)

theorem sorted_insertChild (key : String) (node : α) {children : List (String × α)}
    (h : (keys children).Pairwise (· < ·)) :
    (keys (insertChild key node children)).Pairwise (· < ·) := by
  induction children with
  | nil => exact List.pairwise_singleton _ key
  | cons entry children ih =>
    obtain ⟨first, child⟩ := entry
    obtain ⟨hfirst, hrest⟩ := List.pairwise_cons.mp h
    unfold insertChild
    split
    · next heq =>
      subst heq
      exact h
    · next hne =>
      split
      · next hlt =>
        refine List.pairwise_cons.mpr ⟨List.forall_mem_cons.mpr ⟨hlt, ?_⟩, h⟩
        intro k hk
        exact hlt.trans (hfirst k hk)
      · next hlt =>
        refine List.pairwise_cons.mpr ⟨?_, ih hrest⟩
        intro k hk
        -- The keys of the children behind are the new one and those that were there.
        have hmem : k ∈ keys ((key, node) :: children) :=
          List.map_subset Prod.fst (insertChild_subperm key node children).subset hk
        rcases List.mem_cons.mp hmem with rfl | hmem
        · exact lt_of_le_of_ne (not_lt.mp hlt) (Ne.symm hne)
        · exact hfirst k hmem

theorem sortChildren_concat (entries : List (String × α)) (key : String) (node : α) :
    sortChildren (entries ++ [(key, node)]) = insertChild key node (sortChildren entries) :=
  List.foldl_concat ..

/-- The last of the entries that have a key is found under it. -/
theorem lookup_sortChildren (entries : List (String × α)) (key : String) :
    (sortChildren entries).lookup key = entries.reverse.lookup key := by
  induction entries using List.reverseRecOn with
  | nil => rfl
  | append_singleton entries entry ih =>
    obtain ⟨other, node⟩ := entry
    rw [sortChildren_concat, lookup_insertChild, ih, List.reverse_concat, lookup_cons]

theorem lookup_sortChildren_of_last {key : String} {after : List (String × α)}
    (h : key ∉ keys after) (before : List (String × α)) (node : α) :
    (sortChildren (before ++ (key, node) :: after)).lookup key = some node := by
  have hafter : after.reverse.lookup key = none := by
    refine List.lookup_eq_none_iff.mpr ?_
    intro entry hentry
    refine bne_iff_ne.mpr ?_
    rintro rfl
    exact h (List.mem_map_of_mem (List.mem_reverse.mp hentry))
  rw [lookup_sortChildren, List.reverse_append, List.reverse_cons, List.append_assoc,
    List.lookup_append, hafter, Option.none_or, List.singleton_append, lookup_cons, if_pos rfl]

theorem sortChildren_subperm (entries : List (String × α)) :
    (sortChildren entries).Subperm entries := by
  induction entries using List.reverseRecOn with
  | nil => exact .refl _
  | append_singleton entries entry ih =>
    obtain ⟨key, node⟩ := entry
    rw [sortChildren_concat]
    have hinsert := insertChild_subperm key node (sortChildren entries)
    have hcons : ((key, node) :: sortChildren entries).Subperm ((key, node) :: entries) :=
      (List.subperm_cons _).mpr ih
    exact (hinsert.trans hcons).trans (List.perm_append_singleton _ entries).symm.subperm

theorem sortChildren_perm {entries : List (String × α)} (h : (keys entries).Nodup) :
    (sortChildren entries).Perm entries := by
  induction entries using List.reverseRecOn with
  | nil => exact .refl _
  | append_singleton entries entry ih =>
    obtain ⟨key, node⟩ := entry
    have hcons : (keys ((key, node) :: entries)).Nodup :=
      ((List.perm_append_singleton _ entries).map Prod.fst).nodup_iff.mp h
    obtain ⟨hkey, hrest⟩ := List.nodup_cons.mp hcons
    have hsorted := ih hrest
    have hnot : key ∉ keys (sortChildren entries) := fun hk => hkey ((hsorted.map _).mem_iff.mp hk)
    rw [sortChildren_concat]
    exact (insertChild_perm hnot node).trans
      ((hsorted.cons _).trans (List.perm_append_singleton _ entries).symm)

theorem sorted_sortChildren (entries : List (String × α)) :
    (keys (sortChildren entries)).Pairwise (· < ·) := by
  induction entries using List.reverseRecOn with
  | nil => exact .nil
  | append_singleton entries entry ih =>
    obtain ⟨key, node⟩ := entry
    rw [sortChildren_concat]
    exact sorted_insertChild key node ih

/-- No entry is left out just when no two of them have the same key. -/
theorem length_sortChildren_eq_iff {entries : List (String × α)} :
    (sortChildren entries).length = entries.length ↔ (keys entries).Nodup := by
  constructor
  · intro h
    have hperm := (sortChildren_subperm entries).perm_of_length_le h.ge
    have hsorted : (keys (sortChildren entries)).Nodup :=
      (sorted_sortChildren entries).imp ne_of_lt
    exact (hperm.map Prod.fst).nodup_iff.mp hsorted
  · intro h
    exact (sortChildren_perm h).length_eq

end

theorem leavesOfChildren_eq_flatMap (children : List (String × TemplateNode)) :
    leavesOfChildren children = children.flatMap fun child => child.2.leaves := by
  induction children with
  | nil => rw [leavesOfChildren, List.flatMap_nil]
  | cons child children ih => rw [leavesOfChildren, ih, List.flatMap_cons]

theorem leavesOfChildren_perm {children others : List (String × TemplateNode)}
    (h : children.Perm others) : (leavesOfChildren children).Perm (leavesOfChildren others) := by
  rw [leavesOfChildren_eq_flatMap, leavesOfChildren_eq_flatMap]
  exact h.flatMap_right _

theorem leavesOfChildren_subperm {children others : List (String × TemplateNode)}
    (h : children.Subperm others) :
    (leavesOfChildren children).Subperm (leavesOfChildren others) := by
  obtain ⟨between, hperm, hsub⟩ := h
  have hleaves : (leavesOfChildren between).Sublist (leavesOfChildren others) := by
    rw [leavesOfChildren_eq_flatMap, leavesOfChildren_eq_flatMap]
    exact hsub.flatMap _
  exact (leavesOfChildren_perm hperm).symm.subperm.trans hleaves.subperm

end ServiceAtlas.TemplateNode
