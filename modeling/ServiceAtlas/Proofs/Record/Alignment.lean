import ServiceAtlas.Proofs.Record.Grouping
import ServiceAtlas.Proofs.Record.Places

/-!
# Blocks of writes and instances

Blocks of writes that each begin with the same field, and each make one instance on their own, make
one instance for each block when they follow one another: the first write of a block repeats a field
of the group before it, and so begins a group that knows nothing of what went before.
-/
namespace ServiceAtlas

namespace Place

/-- The scalar fields of the instances of a collection. -/
def fields : {s : Schema} → Place s → List Field
  | .cons _ _ fields _ _, here => fields
  | .cons .., inside p => p.fields
  | .cons .., beside p => p.fields

/-- The collections nested in the instances of a collection. -/
def nested : {s : Schema} → Place s → Schema
  | .cons _ _ _ nested _, here => nested
  | .cons .., inside p => p.nested
  | .cons .., beside p => p.nested

/-- The instances of a collection, with the contents of what is nested in them. -/
abbrev Item {s : Schema} (p : Place s) : Type := Instance p.fields (Contents p.nested)

end Place

namespace Contents

/-- The instances of one collection, those in an outer instance together. -/
def instancesAt : {s : Schema} → (p : Place s) → Contents s → List p.Item
  | .cons .., .here, (is, _) => is
  | .cons .., .inside p, (is, _) => is.flatMap fun i => i.nested.instancesAt p
  | .cons .., .beside p, (_, rest) => rest.instancesAt p

@[simp] theorem instancesAt_empty {s : Schema} (p : Place s) :
    (empty : Contents s).instancesAt p = [] := by
  induction p with
  | here => rfl
  | inside p ih => rfl
  | beside p ih => exact ih

end Contents

namespace Grouping

variable {key keyword : String} {fields : List Field} {nested rest : Schema}

section
variable {group es ms : List (Entry fields nested)}

/-- Nothing is lost or moved when entries are cut into groups. -/
theorem flatten_continued (group es : List (Entry fields nested)) :
    (continued group es).flatten = group ++ es := by
  induction es generalizing group with
  | nil => simp [continued]
  | cons e es ih =>
    rw [continued]
    split
    · rw [List.flatten_cons, ih]
      rfl
    · rw [ih, List.append_assoc]
      rfl

theorem flatten_groups (es : List (Entry fields nested)) : (groups es).flatten = es := by
  cases es with
  | nil => rfl
  | cons e es => exact flatten_continued [e] es

/-- The only group of some entries holds all of them. -/
theorem groups_eq_singleton (h : (groups es).length = 1) : groups es = [es] := by
  obtain ⟨g, hg⟩ := List.length_eq_one_iff.mp h
  have hflat := flatten_groups es
  rw [hg, List.flatten_singleton] at hflat
  rw [hg, hflat]

/-- A group ends where the next entry repeats it, and the entries behind are cut on their own. -/
theorem continued_append (hes : continued group es = [group ++ es])
    (hms : ∀ e ∈ ms.head?, e.repeats (group ++ es) = true) :
    continued group (es ++ ms) = (group ++ es) :: groups ms := by
  induction es generalizing group with
  | nil =>
    cases ms with
    | nil => simp [continued, groups]
    | cons e ms =>
      have he : e.repeats group = true := by simpa using hms e rfl
      simp [continued, groups, he]
  | cons d es ih =>
    rw [continued] at hes
    rw [List.cons_append, continued]
    split at hes
    · -- The entries would be cut before `d`, but they are one group.
      have htail : continued [d] es = [] := (List.cons.inj hes).2
      exact absurd htail (continued_ne_nil [d] es)
    · next hd =>
      have happend : group ++ d :: es = group ++ [d] ++ es := by simp
      rw [happend] at hes hms ⊢
      rw [if_neg hd]
      exact ih hes hms

theorem continued_of_not_repeats (group : List (Entry fields nested))
    (h : ∀ e ∈ es, ∀ g, e.repeats g = false) : continued group es = [group ++ es] := by
  induction es generalizing group with
  | nil => simp [continued]
  | cons e es ih =>
    have he := h e List.mem_cons_self group
    have hes := ih (group ++ [e]) fun d hd => h d (List.mem_cons_of_mem e hd)
    rw [continued, he, if_neg Bool.false_ne_true, hes, List.append_assoc]
    rfl

theorem groups_of_not_repeats (hne : es ≠ []) (h : ∀ e ∈ es, ∀ g, e.repeats g = false) :
    groups es = [es] := by
  cases es with
  | nil => exact absurd rfl hne
  | cons e es => exact continued_of_not_repeats [e] fun d hd => h d (List.mem_cons_of_mem e hd)

/-- Blocks of entries that begin with one field, and are one group each, are the groups of the
entries of all of them. -/
theorem groups_flatten (slot : Slot fields) {ess : List (List (Entry fields nested))}
    (hfirst : ∀ es ∈ ess, ∃ v tail, es = .scalar slot v :: tail)
    (hone : ∀ es ∈ ess, groups es = [es]) : groups ess.flatten = ess := by
  induction ess with
  | nil => rfl
  | cons es ess ih =>
    obtain ⟨⟨v, tail, rfl⟩, hrest⟩ := List.forall_mem_cons.mp hfirst
    obtain ⟨hes, hgroups⟩ := List.forall_mem_cons.mp hone
    have hnext : ∀ e ∈ ess.flatten.head?, e.repeats ([.scalar slot v] ++ tail) = true := by
      cases ess with
      | nil => simp
      | cons ds ess =>
        obtain ⟨w, behind, rfl⟩ := hrest ds List.mem_cons_self
        intro e he
        obtain rfl : Entry.scalar slot w = e := by simpa using he
        simp [Entry.repeats, Entry.slot?]
    have happend := continued_append hes hnext
    rw [ih hrest hgroups] at happend
    exact happend

end

/-- The write to a collection nested in the first one of a schema. -/
def inside? : Write (.cons key keyword fields nested rest) → Option (Write nested)
  | ⟨.scalar _, _⟩ => none
  | ⟨.inside a, value⟩ => some ⟨a, value⟩
  | ⟨.beside _, _⟩ => none

section
variable {ws : List (Write (.cons key keyword fields nested rest))} {p : Place nested}

theorem filterMap_inside? (ws : List (Write (.cons key keyword fields nested rest))) :
    (ws.filterMap Entry.ofWrite?).filterMap Entry.inside? = ws.filterMap inside? := by
  rw [List.filterMap_filterMap]
  congr 1
  funext w
  obtain ⟨a, v⟩ := w
  cases a <;> rfl

theorem within_of_mem_inside? (h : ∀ w ∈ ws, w.address.place.Within (.inside p)) :
    ∀ w ∈ ws.filterMap inside?, w.address.place.Within p := by
  intro w hw
  obtain ⟨⟨a, v⟩, hmem, hv⟩ := List.mem_filterMap.mp hw
  cases a with
  | scalar slot => cases hv
  | beside a => cases hv
  | inside a =>
    obtain rfl := Option.some.inj hv
    exact h _ hmem

theorem within_of_mem_beside? {q : Place rest} (h : ∀ w ∈ ws, w.address.place.Within (.beside q)) :
    ∀ w ∈ ws.filterMap beside?, w.address.place.Within q := by
  intro w hw
  obtain ⟨⟨a, v⟩, hmem, hv⟩ := List.mem_filterMap.mp hw
  cases a with
  | scalar slot => cases hv
  | inside a => cases hv
  | beside a =>
    obtain rfl := Option.some.inj hv
    exact h _ hmem

/-- Writes inside the instances of the first collection set none of its fields. -/
theorem not_repeats_of_within (h : ∀ w ∈ ws, w.address.place.Within (.inside p)) :
    ∀ e ∈ ws.filterMap Entry.ofWrite?, ∀ g, e.repeats g = false := by
  intro e he g
  obtain ⟨⟨a, v⟩, hmem, hv⟩ := List.mem_filterMap.mp he
  cases a with
  | scalar slot => exact (h _ hmem).elim
  | beside a => cases hv
  | inside a =>
    obtain rfl := Option.some.inj hv
    rfl

/-- Writes inside the instances of the first collection open at most one of them. -/
theorem length_groups_le_one (h : ∀ w ∈ ws, w.address.place.Within (.inside p)) :
    (groups (ws.filterMap Entry.ofWrite?)).length ≤ 1 := by
  by_cases hne : ws.filterMap Entry.ofWrite? = []
  · simp [hne, groups]
  · simp [groups_of_not_repeats hne (not_repeats_of_within h)]

theorem instancesAt_inside (h : ∀ w ∈ ws, w.address.place.Within (.inside p)) (q : Place nested) :
    (contents _ ws).instancesAt (.inside q) =
      (contents nested (ws.filterMap inside?)).instancesAt q := by
  rw [← filterMap_inside?, contents]
  by_cases hne : ws.filterMap Entry.ofWrite? = []
  · rw [hne, List.filterMap_nil, contents_nil, Contents.instancesAt_empty]
    rfl
  · rw [groups_of_not_repeats hne (not_repeats_of_within h)]
    exact List.append_nil _

end

/-- Where all writes are to a collection or inside it, the collections around it hold at most one
instance. -/
theorem length_instancesAt_le_one {s : Schema} {p q : Place s} {ws : List (Write s)}
    (h : ∀ w ∈ ws, w.address.place.Within p) (hpq : p.Within q) (hne : q ≠ p) :
    ((contents s ws).instancesAt q).length ≤ 1 := by
  induction p with
  | here =>
    cases q with
    | here => exact absurd rfl hne
    | inside q => exact hpq.elim
    | beside q => exact hpq.elim
  | inside p ih =>
    cases q with
    | here =>
      have hlen : ((groups (ws.filterMap Entry.ofWrite?)).map instanceOf).length ≤ 1 := by
        rw [List.length_map]
        exact length_groups_le_one h
      exact hlen
    | inside q =>
      rw [instancesAt_inside h]
      exact ih (within_of_mem_inside? h) hpq fun e => hne (congrArg _ e)
    | beside q => exact hpq.elim
  | beside p ih =>
    cases q with
    | here => exact hpq.elim
    | inside q => exact hpq.elim
    | beside q => exact ih (within_of_mem_beside? h) hpq fun e => hne (congrArg _ e)

/-- Writes that begin with a field of a collection, go only to it or inside it, and make one instance
of it on their own. -/
structure IsBlock {s : Schema} (a : Address s) (ws : List (Write s)) : Prop where
  first : ∃ v tail, ws = ⟨a, v⟩ :: tail
  within : ∀ w ∈ ws, w.address.place.Within a.place
  one : ((contents s ws).instancesAt a.place).length = 1

namespace IsBlock

variable {ws : List (Write (.cons key keyword fields nested rest))}

theorem groups_eq {slot : Slot fields} (h : IsBlock (.scalar slot) ws) :
    groups (ws.filterMap Entry.ofWrite?) = [ws.filterMap Entry.ofWrite?] := by
  have hlen := h.one
  rw [contents] at hlen
  exact groups_eq_singleton ((List.length_map _).symm.trans hlen)

theorem inside {a : Address nested} (h : IsBlock (.inside a) ws) :
    IsBlock a (ws.filterMap inside?) := by
  obtain ⟨⟨v, tail, rfl⟩, hwithin, hone⟩ := h
  refine ⟨⟨v, tail.filterMap inside?, rfl⟩, within_of_mem_inside? hwithin, ?_⟩
  rw [← instancesAt_inside hwithin]
  exact hone

theorem beside {a : Address rest} (h : IsBlock (.beside a) ws) :
    IsBlock a (ws.filterMap beside?) := by
  obtain ⟨⟨v, tail, rfl⟩, hwithin, hone⟩ := h
  exact ⟨⟨v, tail.filterMap beside?, rfl⟩, within_of_mem_beside? hwithin, hone⟩

end IsBlock

/-- Blocks that begin with one field make, one behind the other, the instances that they make on
their own. -/
theorem instancesAt_flatten {s : Schema} {a : Address s} {wss : List (List (Write s))}
    (h : ∀ ws ∈ wss, IsBlock a ws) :
    (contents s wss.flatten).instancesAt a.place =
      wss.flatMap fun ws => (contents s ws).instancesAt a.place := by
  induction a with
  | scalar slot =>
    have hgroups : groups (wss.flatten.filterMap Entry.ofWrite?) =
        wss.map fun ws => ws.filterMap Entry.ofWrite? := by
      rw [List.filterMap_flatten]
      refine groups_flatten slot (List.forall_mem_map.mpr ?_) (List.forall_mem_map.mpr ?_)
      · intro ws hws
        obtain ⟨v, tail, rfl⟩ := (h ws hws).first
        exact ⟨v, tail.filterMap Entry.ofWrite?, rfl⟩
      · exact fun ws hws => (h ws hws).groups_eq
    change (groups (wss.flatten.filterMap Entry.ofWrite?)).map instanceOf =
      wss.flatMap fun ws => (groups (ws.filterMap Entry.ofWrite?)).map instanceOf
    rw [hgroups, List.map_map, List.map_eq_flatMap]
    refine List.flatMap_congr fun ws hws => ?_
    rw [(h ws hws).groups_eq]
    rfl
  | inside a ih =>
    have hwithin : ∀ w ∈ wss.flatten, w.address.place.Within (.inside a.place) := by
      intro w hw
      obtain ⟨ws, hws, hmem⟩ := List.mem_flatten.mp hw
      exact (h ws hws).within w hmem
    have hnested := ih (List.forall_mem_map.mpr fun ws hws => (h ws hws).inside)
    rw [List.flatMap_map, ← List.filterMap_flatten, ← instancesAt_inside hwithin] at hnested
    refine hnested.trans (List.flatMap_congr fun ws hws => ?_)
    exact (instancesAt_inside (h ws hws).within a.place).symm
  | beside a ih =>
    have hrest := ih (List.forall_mem_map.mpr fun ws hws => (h ws hws).beside)
    rw [List.flatMap_map, ← List.filterMap_flatten] at hrest
    exact hrest

end Grouping
end ServiceAtlas
