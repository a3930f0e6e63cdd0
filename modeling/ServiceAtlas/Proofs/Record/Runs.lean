import ServiceAtlas.Proofs.Record.Contents
import ServiceAtlas.Record.Path

/-! How changes of a record run: one after the other up to the first error, and what the writing of
a text through a resolved path does to the record. -/
namespace ServiceAtlas

namespace RecordM

variable {α β : Type}

theorem runOn_bind (m : RecordM α) (f : α → RecordM β) (r : Record) :
    (m >>= f).runOn r =
      match m.runOn r with
      | (.ok a, r') => (f a).runOn r'
      | (.error e, r') => (.error e, r') := by
  change (match m.runOn r with | (x, r') => ExceptT.bindCont f x r') = _
  obtain ⟨x, r'⟩ := m.runOn r
  cases x with
  | ok a => rfl
  | error e => rfl

end RecordM

namespace Record

/-- The record with one more value. -/
def put (r : Record) (w : Write Schema.record) : Record := r.write w.address w.value

end Record

namespace Target

/-- The write of a text that converts to the type of the field. -/
def write? (t : Target) (text : String) : Option (Write Schema.record) :=
  (t.address.field.type.read? text).map fun v => ⟨t.address, v⟩

theorem runOn_store (t : Target) (text : String) (r : Record) :
    (t.store text).runOn r =
      match t.write? text with
      | some w => (.ok (), r.put w)
      | none => (.error (.conversion t.path text t.address.field.type), r) := by
  unfold store write?
  cases t.address.field.type.read? text with
  | none => rfl
  | some v => rfl

/-- Writes a text to the field that a path names. -/
def storeAt (path text : String) : RecordM Unit :=
  match resolve path with
  | .ok t => t.store text
  | .error e => throw e

/-- The write of a text to the field that a path names, if there is one and the text converts. -/
def writeAt? (path text : String) : Option (Write Schema.record) :=
  (resolve path).toOption.bind fun t => t.write? text

theorem runOn_storeAt (path text : String) (r : Record) :
    (∃ w, writeAt? path text = some w ∧ (storeAt path text).runOn r = (.ok (), r.put w)) ∨
      ∃ e, (storeAt path text).runOn r = (.error e, r) := by
  unfold storeAt writeAt?
  cases resolve path with
  | error e => exact Or.inr ⟨e, rfl⟩
  | ok t =>
    cases hw : t.write? text with
    | none =>
      refine Or.inr ⟨.conversion t.path text t.address.field.type, ?_⟩
      simp [runOn_store, hw]
    | some w =>
      refine Or.inl ⟨w, hw, ?_⟩
      simp [runOn_store, hw]

/-- Writes texts to the fields that paths name, up to the first that fails. -/
def storeAll (steps : List (String × String)) : RecordM Unit :=
  steps.forM fun (path, text) => storeAt path text

/-- Writes that all succeed put one value after the other. -/
theorem runOn_storeAll (steps : List (String × String)) (r : Record)
    (h : ((storeAll steps).runOn r).1 = .ok ()) :
    ∃ ws : List (Write Schema.record),
      steps.map (fun (path, text) => writeAt? path text) = ws.map some ∧
        ((storeAll steps).runOn r).2 = ws.foldl Record.put r := by
  induction steps generalizing r with
  | nil => exact ⟨[], rfl, rfl⟩
  | cons step steps ih =>
    obtain ⟨path, text⟩ := step
    have hb : (storeAll ((path, text) :: steps)).runOn r = _ :=
      RecordM.runOn_bind (storeAt path text) (fun _ => storeAll steps) r
    rw [hb] at h ⊢
    rcases runOn_storeAt path text r with ⟨w, hw, hr⟩ | ⟨e, hr⟩
    · rw [hr] at h ⊢
      obtain ⟨ws, hs, hrs⟩ := ih (r.put w) h
      refine ⟨w :: ws, ?_, hrs⟩
      change writeAt? path text :: steps.map _ = some w :: ws.map some
      rw [hs, hw]
    · rw [hr] at h
      cases h

end Target
end ServiceAtlas
