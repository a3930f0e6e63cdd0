import ServiceAtlas.Datum.Basic
import ServiceAtlas.Proofs.Record.Contents

/-!
# Rendered records

The datum of a record tells all that its collections hold, although it leaves out what is unset or
empty: beside one another no two fields or collections have the same key, so that each entry shows
where it belongs, and an entry that is missing can only stand for nothing. Cursors and warnings are
not in it.
-/
namespace ServiceAtlas

/-- Two lists are joined in one way where the first holds only elements of a kind and the second
none. -/
theorem append_eq_append_iff_of_forall {α : Type} (p : α → Bool) {front front' back back' : List α}
    (hf : ∀ x ∈ front, p x = true) (hf' : ∀ x ∈ front', p x = true)
    (hb : ∀ x ∈ back, p x = false) (hb' : ∀ x ∈ back', p x = false) :
    front ++ back = front' ++ back' ↔ front = front' ∧ back = back' := by
  have hnot {l : List α} (h : ∀ x ∈ l, p x = false) : l.filter p = [] :=
    List.filter_eq_nil_iff.mpr fun x hx => by simp [h x hx]
  constructor
  · intro h
    have hfront := congrArg (List.filter p) h
    rw [List.filter_append, List.filter_append, List.filter_eq_self.mpr hf,
      List.filter_eq_self.mpr hf', hnot hb, hnot hb', List.append_nil, List.append_nil] at hfront
    subst hfront
    exact ⟨rfl, List.append_cancel_left h⟩
  · rintro ⟨rfl, rfl⟩
    rfl

theorem map_eq_map_iff_of_iff {α β γ : Type} {f : α → β} {g : α → γ}
    (h : ∀ x y, f x = f y ↔ g x = g y) {xs ys : List α} :
    xs.map f = ys.map f ↔ xs.map g = ys.map g := by
  induction xs generalizing ys with
  | nil => simp [eq_comm]
  | cons x xs ih => cases ys <;> simp [h, ih]

namespace Schema

/-- The keys of the collections that stand beside one another. -/
def keys : Schema → List String
  | .nil => []
  | .cons key _ _ _ rest => key :: rest.keys

/-- No key is used twice at one level: for collections beside one another, or for the fields of an
instance and the collections nested in it. -/
def DistinctKeys : Schema → Prop
  | .nil => True
  | .cons key _ fields nested rest =>
    key ∉ rest.keys ∧ (fields.map Field.key ++ nested.keys).Nodup ∧
      nested.DistinctKeys ∧ rest.DistinctKeys

instance instDecidableDistinctKeys : (s : Schema) → Decidable s.DistinctKeys
  | .nil => inferInstanceAs (Decidable True)
  | .cons key _ fields nested rest =>
    have := instDecidableDistinctKeys nested
    have := instDecidableDistinctKeys rest
    inferInstanceAs (Decidable (key ∉ rest.keys ∧ (fields.map Field.key ++ nested.keys).Nodup ∧
      nested.DistinctKeys ∧ rest.DistinctKeys))

theorem distinctKeys_record : record.DistinctKeys := by decide +kernel

end Schema

theorem FieldType.datum_injective : (t : FieldType) → Function.Injective t.datum
  | .text, _, _, h => Datum.text.inj h
  | .integer, _, _, h => Datum.integer.inj h
  | .boolean, _, _, h => Datum.boolean.inj h

namespace Row

theorem key_mem_of_mem_entries {fs : List Field} {row : Row fs} {entry : String × Datum}
    (h : entry ∈ row.entries) : entry.1 ∈ fs.map Field.key := by
  induction fs with
  | nil => exact absurd h List.not_mem_nil
  | cons f fs ih =>
    obtain ⟨value, row⟩ := row
    rcases List.mem_append.mp h with h | h
    · obtain ⟨v, -, rfl⟩ := List.mem_map.mp h
      exact List.mem_cons_self
    · exact List.mem_cons_of_mem f.key (ih h)

/-- The set values under their keys tell the whole row. -/
theorem entries_inj {fs : List Field} (hfs : (fs.map Field.key).Nodup) {row other : Row fs} :
    row.entries = other.entries ↔ row = other := by
  induction fs with
  | nil => exact ⟨fun _ => rfl, fun _ => rfl⟩
  | cons f fs ih =>
    obtain ⟨value, row⟩ := row
    obtain ⟨value', other⟩ := other
    obtain ⟨hkey, hrest⟩ := List.nodup_cons.mp hfs
    have hown (v : Option f.type.Carrier) :
        ∀ x ∈ v.toList.map fun v => (f.key, f.type.datum v), (x.1 == f.key) = true := by
      simp
    have hbehind (row : Row fs) : ∀ x ∈ row.entries, (x.1 == f.key) = false := by
      intro x hx
      refine beq_eq_false_iff_ne.mpr ?_
      rintro heq
      exact hkey (heq ▸ key_mem_of_mem_entries hx)
    have hvalue : ((value.toList.map fun v => (f.key, f.type.datum v)) =
        value'.toList.map fun v => (f.key, f.type.datum v)) ↔ value = value' := by
      cases value <;> cases value' <;> simp [f.type.datum_injective.eq_iff]
    refine (append_eq_append_iff_of_forall _ (hown value) (hown value') (hbehind row)
      (hbehind other)).trans ?_
    rw [ih hrest, hvalue]
    exact (iff_of_eq (Prod.mk.injEq ..)).symm

end Row

namespace Collections

theorem key_mem_of_mem_entries {s : Schema} {c : Collections s} {entry : String × Datum}
    (h : entry ∈ c.entries) : entry.1 ∈ s.keys := by
  induction s with
  | nil => exact absurd h List.not_mem_nil
  | cons key keyword fields nested rest ihn ihr =>
    obtain ⟨c, cs⟩ := c
    rcases List.mem_append.mp h with h | h
    · split at h
      · exact absurd h List.not_mem_nil
      · obtain rfl := List.mem_singleton.mp h
        exact List.mem_cons_self
    · exact List.mem_cons_of_mem key (ihr h)

section
variable {fields : List Field} {nested : Schema}

/-- An instance as it is rendered. -/
def instanceDatum (i : Instance fields (Collections nested)) : Datum :=
  .mapping (i.values.entries ++ i.nested.entries)

theorem instanceDatum_inj (hkeys : (fields.map Field.key ++ nested.keys).Nodup)
    (hnested : ∀ {c d : Collections nested}, c.entries = d.entries ↔ c.contents = d.contents)
    (i j : Instance fields (Collections nested)) :
    instanceDatum i = instanceDatum j ↔ view i = view j := by
  obtain ⟨hfields, -, hdiffer⟩ := List.nodup_append.mp hkeys
  have hvalues (row : Row fields) :
      ∀ x ∈ row.entries, decide (x.1 ∈ fields.map Field.key) = true :=
    fun x hx => decide_eq_true (Row.key_mem_of_mem_entries hx)
  have hinside (c : Collections nested) :
      ∀ x ∈ c.entries, decide (x.1 ∈ fields.map Field.key) = false :=
    fun x hx => decide_eq_false fun hmem => hdiffer _ hmem _ (key_mem_of_mem_entries hx) rfl
  rw [instanceDatum, instanceDatum, Datum.mapping.injEq,
    append_eq_append_iff_of_forall _ (hvalues _) (hvalues _) (hinside _) (hinside _),
    Row.entries_inj hfields, hnested, view, view, Instance.mk.injEq]

/-- A collection is left out when it is empty, and otherwise tells its instances. -/
theorem collectionEntries_inj (key : String)
    (c d : Collection (Instance fields (Collections nested))) :
    ((if c.isEmpty then [] else [(key, Datum.sequence (c.instances.map instanceDatum))]) =
        if d.isEmpty then [] else [(key, Datum.sequence (d.instances.map instanceDatum))]) ↔
      c.instances.map instanceDatum = d.instances.map instanceDatum := by
  obtain ⟨is, n⟩ := c
  obtain ⟨js, m⟩ := d
  cases is <;> cases js <;> simp [Collection.isEmpty]

end

/-- What is rendered of collections are their contents, and nothing is lost of them. -/
theorem entries_eq_iff {s : Schema} (h : s.DistinctKeys) {c d : Collections s} :
    c.entries = d.entries ↔ c.contents = d.contents := by
  induction s with
  | nil => exact ⟨fun _ => rfl, fun _ => rfl⟩
  | cons key keyword fields nested rest ihn ihr =>
    obtain ⟨c, cs⟩ := c
    obtain ⟨d, ds⟩ := d
    obtain ⟨hkey, hlevel, hnested, hrest⟩ := h
    have hown (e : Collection (Instance fields (Collections nested))) :
        ∀ x ∈ if e.isEmpty then [] else [(key, Datum.sequence (e.instances.map instanceDatum))],
          (x.1 == key) = true := by
      intro x hx
      split at hx <;> simp_all
    have hbeside (es : Collections rest) : ∀ x ∈ es.entries, (x.1 == key) = false := by
      intro x hx
      refine beq_eq_false_iff_ne.mpr ?_
      intro heq
      exact hkey (heq ▸ key_mem_of_mem_entries hx)
    refine (append_eq_append_iff_of_forall _ (hown c) (hown d) (hbeside cs) (hbeside ds)).trans ?_
    rw [collectionEntries_inj, map_eq_map_iff_of_iff (instanceDatum_inj hlevel (ihn hnested)),
      ihr hrest]
    exact (iff_of_eq (Prod.mk.injEq ..)).symm

theorem entries_eq_nil_iff {s : Schema} {c : Collections s} :
    c.entries = [] ↔ c.isEmpty = true := by
  induction s with
  | nil => exact ⟨fun _ => rfl, fun _ => rfl⟩
  | cons key keyword fields nested rest ihn ihr =>
    obtain ⟨c, cs⟩ := c
    rw [entries, isEmpty, List.append_eq_nil_iff, ihr, Bool.and_eq_true]
    cases c.isEmpty <;> simp

end Collections

/-- Two records render to one datum just when their instance lists hold the same values, at every
depth. Their cursors and their warnings have no say in it, and the datum is empty just when the
record is. -/
theorem Record.datum_eq_iff :
    (∀ r s : Record, r.datum = s.datum ↔ r.collections.contents = s.collections.contents) ∧
      (∀ (r : Record) (warnings : List String),
        (Record.mk r.collections.release warnings).datum = r.datum) ∧
      ∀ r : Record, r.datum = .mapping [] ↔ r.isEmpty = true := by
  have hdatum (r s : Record) :
      r.datum = s.datum ↔ r.collections.contents = s.collections.contents := by
    rw [datum, datum, Datum.mapping.injEq]
    exact Collections.entries_eq_iff Schema.distinctKeys_record
  refine ⟨hdatum, ?_, ?_⟩
  · intro r warnings
    exact (hdatum _ _).mpr (Collections.contents_release r.collections)
  · intro r
    rw [datum, Datum.mapping.injEq]
    exact Collections.entries_eq_nil_iff

end ServiceAtlas
