import ServiceAtlas.Proofs.Extract.Script

/-!
# Outcomes of walks

What a walk converts, compares, cuts and refuses it reads off the document and the template alone,
although each write looks at the instances that the record already has. Two walks of one document
therefore end alike, on a new record as on one that a failed walk has left behind.
-/
namespace ServiceAtlas

/-- The warning that a change adds, if it adds one. -/
def Change.message? : Change → Option String
  | put _ => none
  | warn message => some message
  | release => none

/-- The warnings that a script adds, in order. -/
def Script.messages (s : Script) : List String := s.changes.filterMap Change.message?

theorem Record.warnings_apply (r : Record) (c : Change) :
    (r.apply c).warnings = r.warnings ++ c.message?.toList := by
  cases c with
  | put w => exact (List.append_nil _).symm
  | warn message => rfl
  | release => exact (List.append_nil _).symm

theorem Record.warnings_applyAll (r : Record) (cs : List Change) :
    (r.applyAll cs).warnings = r.warnings ++ cs.filterMap Change.message? := by
  induction cs generalizing r with
  | nil => exact (List.append_nil _).symm
  | cons c cs ih =>
    rw [applyAll_cons, ih, warnings_apply, List.append_assoc, List.filterMap_cons]
    cases c.message? <;> rfl

/-- What performs a script has its result and adds its warnings, whatever the record is. -/
theorem RecordM.Performs.outcome {m : RecordM Unit} {s : Script} (h : m.Performs s) (r : Record) :
    (m.runOn r).1 = s.result ∧ (m.runOn r).2.warnings = r.warnings ++ s.messages := by
  rw [h r]
  exact ⟨rfl, r.warnings_applyAll s.changes⟩

/-- A walk ends alike on any two records, with the same result and with the same warnings behind
those that were there. The warnings are those of the script of the document, which is known before
the records are. -/
theorem Template.outcome_extractInto (t : Template) (document : Document) (r r' : Record) :
    let walk := (t.extractInto document).runOn r
    let walk' := (t.extractInto document).runOn r'
    let messages := (t.script document).messages
    walk.1 = walk'.1 ∧ walk.2.warnings = r.warnings ++ messages ∧
      walk'.2.warnings = r'.warnings ++ messages := by
  intro walk walk' messages
  obtain ⟨hresult, hwarnings⟩ := (t.performs_extractInto document).outcome r
  obtain ⟨hresult', hwarnings'⟩ := (t.performs_extractInto document).outcome r'
  exact ⟨hresult.trans hresult'.symm, hwarnings, hwarnings'⟩

end ServiceAtlas
