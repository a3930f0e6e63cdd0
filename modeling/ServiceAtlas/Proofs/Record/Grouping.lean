import Mathlib.Data.List.Induction
import ServiceAtlas.Proofs.Record.Runs

/-!
# Instances as groups of writes

The instances of a collection are the groups into which the writes to it are cut from left to right:
a write to a field that its group has set already begins the next group. The collections nested in
an instance are those of the nested writes of its group. No cursor is needed to say this.
-/
namespace ServiceAtlas
namespace Grouping

/-- A write to the instances of a collection: to one of their fields, or to the collections nested
in them. -/
inductive Entry (fields : List Field) (nested : Schema) where
  | scalar (slot : Slot fields) (value : slot.field.type.Carrier)
  | inside (w : Write nested)

variable {key keyword : String} {fields : List Field} {nested rest : Schema}

namespace Entry

/-- The entry of a write to the first collection of a schema. -/
def ofWrite? : Write (.cons key keyword fields nested rest) → Option (Entry fields nested)
  | ⟨.scalar slot, value⟩ => some (.scalar slot value)
  | ⟨.inside a, value⟩ => some (.inside ⟨a, value⟩)
  | ⟨.beside _, _⟩ => none

def slot? : Entry fields nested → Option (Slot fields)
  | scalar slot _ => some slot
  | inside _ => none

def inside? : Entry fields nested → Option (Write nested)
  | scalar _ _ => none
  | inside w => some w

/-- Whether an entry sets a field that one of the entries of a group sets. -/
def repeats (group : List (Entry fields nested)) : Entry fields nested → Bool
  | scalar slot _ => group.any fun e => e.slot? = some slot
  | inside _ => false

/-- The values of a row with the one of an entry. -/
def store (row : Row fields) : Entry fields nested → Row fields
  | scalar slot value => row.set slot value
  | inside _ => row

end Entry

/-- The write to a collection behind the first one of a schema. -/
def beside? : Write (.cons key keyword fields nested rest) → Option (Write rest)
  | ⟨.scalar _, _⟩ => none
  | ⟨.inside _, _⟩ => none
  | ⟨.beside a, value⟩ => some ⟨a, value⟩

/-- The rest of a group that has begun, and the groups behind it. -/
def continued (group : List (Entry fields nested)) :
    List (Entry fields nested) → List (List (Entry fields nested))
  | [] => [group]
  | e :: es => if e.repeats group then group :: continued [e] es else continued (group ++ [e]) es

/-- Entries cut from left to right. -/
def groups : List (Entry fields nested) → List (List (Entry fields nested))
  | [] => []
  | e :: es => continued [e] es

/-- The fields that a group sets. -/
def row (group : List (Entry fields nested)) : Row fields := group.foldl Entry.store Row.blank

/-- The instances of every collection, from the writes to it. -/
def contents : (s : Schema) → List (Write s) → Contents s
  | .nil, _ => ()
  | .cons _ _ _ nested rest, ws =>
    ((groups (ws.filterMap Entry.ofWrite?)).map fun group =>
      ⟨row group, contents nested (group.filterMap Entry.inside?)⟩,
      contents rest (ws.filterMap beside?))

/-- The instance of a group. -/
def instanceOf (group : List (Entry fields nested)) : Instance fields (Contents nested) :=
  ⟨row group, contents nested (group.filterMap Entry.inside?)⟩

theorem continued_ne_nil (group es : List (Entry fields nested)) : continued group es ≠ [] := by
  induction es generalizing group with
  | nil => simp [continued]
  | cons e es ih =>
    rw [continued]
    split
    · simp
    · exact ih _

theorem continued_concat (group es : List (Entry fields nested)) (e : Entry fields nested) :
    continued group (es ++ [e]) =
      Last.assign [] (fun g => e.repeats g) (· ++ [e]) (continued group es) := by
  induction es generalizing group with
  | nil =>
    by_cases h : e.repeats group
    · simp [continued, Last.assign, h]
    · simp [continued, Last.assign, Last.modify, Last.get, h]
  | cons d es ih =>
    rw [List.cons_append, continued, continued]
    split
    · rw [ih, Last.assign_cons _ _ _ _ (continued_ne_nil [d] es)]
    · exact ih _

theorem groups_concat (es : List (Entry fields nested)) (e : Entry fields nested) :
    groups (es ++ [e]) = Last.assign [] (fun g => e.repeats g) (· ++ [e]) (groups es) := by
  cases es with
  | nil => simp [groups, continued]
  | cons d es => exact continued_concat [d] es e

theorem row_concat (group : List (Entry fields nested)) (e : Entry fields nested) :
    row (group ++ [e]) = e.store (row group) := by
  simp [row, List.foldl_append]

/-- A group has set a field exactly when its row holds a value for it. -/
theorem isSome_get_row (slot : Slot fields) (group : List (Entry fields nested)) :
    ((row group).get slot).isSome = group.any fun e => e.slot? = some slot := by
  induction group using List.reverseRecOn with
  | nil => simp [row]
  | append_singleton group e ih =>
    rw [row_concat, List.any_append, ← ih]
    cases e with
    | inside w => simp [Entry.store, Entry.slot?]
    | scalar other value =>
      by_cases h : slot = other
      · subst h
        simp [Entry.store, Entry.slot?]
      · simp [Entry.store, Entry.slot?, Row.get_set_of_ne h, Ne.symm h]

theorem contents_nil {s : Schema} : contents s [] = Contents.empty := by
  induction s with
  | nil => rfl
  | cons key keyword fields nested rest ihn ihr => exact congrArg (Prod.mk []) ihr

theorem instanceOf_nil : instanceOf ([] : List (Entry fields nested)) = Contents.blank := by
  simp [instanceOf, row, contents_nil, Contents.blank]

theorem instanceOf_concat_scalar (group : List (Entry fields nested)) (slot : Slot fields)
    (v : slot.field.type.Carrier) :
    instanceOf (group ++ [.scalar slot v]) = Contents.setValue slot v (instanceOf group) := by
  have hn : (group ++ [Entry.scalar slot v]).filterMap Entry.inside? =
      group.filterMap Entry.inside? := by
    rw [List.filterMap_append]
    exact List.append_nil _
  rw [instanceOf, row_concat, hn]
  rfl

theorem instanceOf_concat_inside (group : List (Entry fields nested)) (w : Write nested) :
    instanceOf (group ++ [.inside w]) =
      ⟨row group, contents nested (group.filterMap Entry.inside? ++ [w])⟩ := by
  rw [instanceOf, row_concat, List.filterMap_append]
  rfl

/-- One more write changes the grouped contents at their end. -/
theorem contents_concat {s : Schema} (ws : List (Write s)) (a : Address s) (v : a.Carrier) :
    contents s (ws ++ [⟨a, v⟩]) = (contents s ws).write a v := by
  induction a with
  | @scalar key keyword fields nested rest slot =>
    rw [contents, List.filterMap_append, List.filterMap_append]
    change ((groups (ws.filterMap Entry.ofWrite? ++ [.scalar slot v])).map instanceOf,
      contents rest (ws.filterMap beside? ++ [])) =
        (Last.assign Contents.blank (Contents.isSet slot) (Contents.setValue slot v)
          ((groups (ws.filterMap Entry.ofWrite?)).map instanceOf),
        contents rest (ws.filterMap beside?))
    rw [groups_concat, List.append_nil, ← instanceOf_nil]
    congr 1
    refine Last.map_assign instanceOf ?_ ?_ ?_
    · intro group _
      exact (isSome_get_row slot group).symm
    · exact instanceOf_concat_scalar [] slot v
    · exact instanceOf_concat_scalar _ slot v
  | @inside key keyword fields nested rest a ih =>
    rw [contents, List.filterMap_append, List.filterMap_append]
    change ((groups (ws.filterMap Entry.ofWrite? ++ [.inside ⟨a, v⟩])).map instanceOf,
      contents rest (ws.filterMap beside? ++ [])) =
        (Last.modify Contents.blank (Contents.changeNested (Contents.write a v))
          ((groups (ws.filterMap Entry.ofWrite?)).map instanceOf),
        contents rest (ws.filterMap beside?))
    rw [groups_concat, List.append_nil, ← instanceOf_nil]
    congr 1
    refine (congrArg (List.map instanceOf) (Last.assign_of_not_taken _ _ _)).trans ?_
    refine Last.map_modify instanceOf ?_
    exact (instanceOf_concat_inside _ ⟨a, v⟩).trans (congrArg (Instance.mk _) (ih _ v))
  | @beside key keyword fields nested rest a ih =>
    rw [contents, List.filterMap_append, List.filterMap_append]
    change ((groups (ws.filterMap Entry.ofWrite? ++ [])).map instanceOf,
      contents rest (ws.filterMap beside? ++ [⟨a, v⟩])) =
        ((groups (ws.filterMap Entry.ofWrite?)).map instanceOf,
        (contents rest (ws.filterMap beside?)).write a v)
    rw [List.append_nil]
    exact congrArg (Prod.mk _) (ih _ v)

end Grouping

namespace Record

theorem cursorsOnLast_puts (ws : List (Write Schema.record)) :
    (ws.foldl put .empty).collections.CursorsOnLast := by
  induction ws using List.reverseRecOn with
  | nil => exact Collections.cursorsOnLast_empty
  | append_singleton ws w ih =>
    rw [List.foldl_append]
    exact ih.write w.value

theorem contents_puts (ws : List (Write Schema.record)) :
    (ws.foldl put .empty).collections.contents = Grouping.contents Schema.record ws := by
  induction ws using List.reverseRecOn with
  | nil => exact Collections.contents_empty.trans Grouping.contents_nil.symm
  | append_singleton ws w ih =>
    rw [List.foldl_append, Grouping.contents_concat, ← ih]
    exact Collections.contents_write w.value (cursorsOnLast_puts ws)

/-- Writes that all succeed fill a new record with the instances of their groups. -/
theorem contents_storeAll (steps : List (String × String))
    (h : ((Target.storeAll steps).runOn .empty).1 = .ok ()) :
    ∃ ws : List (Write Schema.record),
      steps.map (fun (path, text) => Target.writeAt? path text) = ws.map some ∧
        ((Target.storeAll steps).runOn .empty).2.collections.contents =
          Grouping.contents Schema.record ws := by
  obtain ⟨ws, hs, hr⟩ := Target.runOn_storeAll steps .empty h
  refine ⟨ws, hs, ?_⟩
  rw [hr]
  exact contents_puts ws

/-- A cache whose databases come before its host, split between two of them. -/
theorem contents_storeAll_caches :
    let steps := [("all.redis.database.namespace.name", "n"), ("all.redis.database.name", "a"),
      ("all.redis.host", "h"), ("all.redis.database.name", "b"), ("redis.redis.host", "i"),
      ("all.redis.database.namespace.name", "m"), ("all.kafka.port", "+9092")]
    ((Target.storeAll steps).runOn .empty).1 = .ok () ∧
      ∃ ws : List (Write Schema.record),
        steps.map (fun (path, text) => Target.writeAt? path text) = ws.map some ∧
          ((Target.storeAll steps).runOn .empty).2.collections.contents =
            Grouping.contents Schema.record ws :=
  have h : ((Target.storeAll _).runOn .empty).1 = .ok () := by decide +kernel
  ⟨h, contents_storeAll _ h⟩

end Record
end ServiceAtlas
