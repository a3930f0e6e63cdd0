import Mathlib.Data.List.Induction
import ServiceAtlas.Proofs.Extract.Script
import ServiceAtlas.Proofs.Record.Values

/-!
# Records after operations

The operations on a record are the writing of a text to a field, the application of a setter, the
walk of a document and the release of the cursors. Whatever operations a record has been through,
also those that failed part way, its cursors are on last instances and nothing it holds was moved.
-/
namespace ServiceAtlas

inductive Operation where
  | store (target : Target) (text : String)
  | apply (setter : Setter) (value : String)
  | extract (template : Template) (document : Document)
  | release

namespace Operation

def run : Operation → RecordM Unit
  | store target text => target.store text
  | apply setter value => setter.apply value
  | extract template document => template.extractInto document
  | release => modify Record.release

def script : Operation → Script
  | store target text => target.script text
  | apply setter value => setter.script value
  | extract template document => template.script document
  | release => .change .release

theorem performs_run (op : Operation) : op.run.Performs op.script := by
  cases op with
  | store target text => exact target.performs_store text
  | apply setter value => exact setter.performs_apply value
  | extract template document => exact template.performs_extractInto document
  | release => exact RecordM.performs_release

end Operation

namespace Record

/-- The record after some operations on a new one, whether they succeed or not. -/
def after (ops : List Operation) : Record := ops.foldl (fun r op => (op.run.runOn r).2) .empty

theorem after_concat (ops : List Operation) (op : Operation) :
    after (ops ++ [op]) = (after ops).applyAll op.script.changes := by
  rw [after, List.foldl_concat, op.performs_run]
  rfl

section
variable {P : Record → Prop} (hstep : ∀ r c, P r → P (r.apply c))
include hstep

theorem applyAll_invariant {r : Record} (h : P r) (cs : List Change) : P (r.applyAll cs) :=
  List.foldlRecOn cs apply h fun r hr c _ => hstep r c hr

/-- What holds of a new record and is kept by every change holds after any operations. -/
theorem after_invariant (hnew : P .empty) (ops : List Operation) : P (after ops) := by
  induction ops using List.reverseRecOn with
  | nil => exact hnew
  | append_singleton ops op ih =>
    rw [after_concat]
    exact applyAll_invariant hstep ih _

end

theorem cursorsOnLast_apply {r : Record} (h : r.collections.CursorsOnLast) (c : Change) :
    (r.apply c).collections.CursorsOnLast := by
  cases c with
  | put w => exact h.write w.value
  | warn message => exact h
  | release => exact Collections.CursorsOnLast.release r.collections

theorem cursorsOnLast_applyAll {r : Record} (h : r.collections.CursorsOnLast) (cs : List Change) :
    (r.applyAll cs).collections.CursorsOnLast :=
  applyAll_invariant (P := fun r => r.collections.CursorsOnLast)
    (fun _ c hr => cursorsOnLast_apply hr c) h cs

theorem cursorsOnLast_after (ops : List Operation) : (after ops).collections.CursorsOnLast :=
  after_invariant (P := fun r => r.collections.CursorsOnLast)
    (fun _ c hr => cursorsOnLast_apply hr c) Collections.cursorsOnLast_empty ops

theorem focused_store {r r' : Record} (h : r.collections.CursorsOnLast) {t : Target} {text : String}
    (hs : (t.store text).runOn r = (.ok (), r')) : r'.collections.Focused t.address := by
  rw [Target.runOn_store] at hs
  cases hw : t.write? text with
  | none => simp [hw] at hs
  | some w =>
    obtain ⟨v, -, rfl⟩ := Option.map_eq_some_iff.mp hw
    obtain rfl : r.put ⟨t.address, v⟩ = r' := by simpa [hw] using hs
    exact h.focused_write v

/-- After any operations every cursor is on the last instance of its collection. Each write of a next
operation, whatever was changed before it, then finds the instances it looks up, and leaves the
cursor of every collection on its way on the last instance. -/
theorem cursors_after (ops : List Operation) :
    (∀ e ∈ (after ops).collections.extents "", ∀ i ∈ e.cursor, i + 1 = e.size) ∧
      (∀ op : Operation,
        op.run.runOn (after ops) = (op.script.result, (after ops).applyAll op.script.changes) ∧
          ∀ before w behind, op.script.changes = before ++ .put w :: behind →
            ((after ops).applyAll before).collections.Reaches w.address ∧
              (((after ops).applyAll before).put w).collections.Focused w.address) ∧
      ∀ (t : Target) (text : String) (r : Record),
        (t.store text).runOn (after ops) = (.ok (), r) → r.collections.Focused t.address := by
  have h := cursorsOnLast_after ops
  refine ⟨(Collections.each_iff_extents _ "" _).mp h, ?_, ?_⟩
  · intro op
    refine ⟨op.performs_run _, ?_⟩
    intro before w behind _
    -- The changes before the write have kept the cursors, so it meets them like the first one.
    have hb := cursorsOnLast_applyAll h before
    exact ⟨hb.reaches w.address, hb.focused_write w.value⟩
  · intro t text r hr
    exact focused_store h hr

theorem values_apply {r : Record} (h : r.collections.CursorsOnLast) (c : Change)
    (a : Address Schema.record) :
    (r.apply c).values a = r.values a ++ (c.write?.bind (Write.valueAt a)).toList := by
  cases c with
  | put w => exact h.values_write w a
  | warn message => exact (List.append_nil _).symm
  | release =>
    change r.collections.release.values a = r.collections.values a ++ []
    rw [Collections.values_eq_contents, Collections.values_eq_contents,
      Collections.contents_release, List.append_nil]

theorem values_applyAll {r : Record} (h : r.collections.CursorsOnLast) (cs : List Change)
    (a : Address Schema.record) :
    (r.applyAll cs).values a =
      r.values a ++ (cs.filterMap Change.write?).filterMap (Write.valueAt a) := by
  induction cs generalizing r with
  | nil => exact (List.append_nil _).symm
  | cons c cs ih =>
    rw [applyAll_cons, ih (cursorsOnLast_apply h c), values_apply h c a, List.append_assoc]
    congr 1
    rw [List.filterMap_filterMap, List.filterMap_filterMap, List.filterMap_cons]
    cases c.write?.bind (Write.valueAt a) <;> rfl

end Record

/-- A walk, failing or not, puts the values it writes to a field behind those the field had, in the
order of the writes, and changes no others. -/
theorem Template.values_extractInto (t : Template) (entries : List (String × Document))
    (ops : List Operation) :
    let r := Record.after ops
    let s := t.script (.map entries)
    (t.extractInto (.map entries)).runOn r = (s.result, r.applyAll s.changes) ∧
      ∀ a, ((t.extractInto (.map entries)).runOn r).2.values a =
        r.values a ++ s.writes.filterMap (Write.valueAt a) := by
  intro r s
  have hr := t.performs_extractInto (.map entries) r
  refine ⟨hr, ?_⟩
  intro a
  rw [hr]
  exact Record.values_applyAll (Record.cursorsOnLast_after ops) s.changes a

end ServiceAtlas
