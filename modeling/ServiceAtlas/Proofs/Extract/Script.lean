import ServiceAtlas.Proofs.Extract.Plan

/-!
# Scripts

The changes that a computation makes to a record, and its result, do not depend on the record: they
are a script, which is known before the record is. A computation that stops at an error has made the
changes before it.
-/
namespace ServiceAtlas

inductive Change where
  | put (w : Write Schema.record)
  | warn (message : String)
  | release

/-- The write that a change is, if it is one. -/
def Change.write? : Change → Option (Write Schema.record)
  | put w => some w
  | warn _ => none
  | release => none

namespace Record

def apply (r : Record) : Change → Record
  | .put w => r.put w
  | .warn message => r.warn message
  | .release => r.release

def applyAll (r : Record) (cs : List Change) : Record := cs.foldl apply r

@[simp] theorem applyAll_cons (r : Record) (c : Change) (cs : List Change) :
    r.applyAll (c :: cs) = (r.apply c).applyAll cs := rfl

theorem applyAll_append (r : Record) (cs ds : List Change) :
    r.applyAll (cs ++ ds) = (r.applyAll cs).applyAll ds :=
  List.foldl_append

end Record

/-- Changes in the order in which they are made, and how it ends. -/
structure Script where
  changes : List Change
  result : Except ExtractError Unit

namespace Script

def done : Script := ⟨[], .ok ()⟩

def fail (e : ExtractError) : Script := ⟨[], .error e⟩

def change (c : Change) : Script := ⟨[c], .ok ()⟩

/-- The second script follows the first unless that fails. -/
def andThen (s t : Script) : Script :=
  match s.result with
  | .ok () => ⟨s.changes ++ t.changes, t.result⟩
  | .error e => ⟨s.changes, .error e⟩

/-- Scripts one after the other up to the first that fails. -/
def all : List Script → Script
  | [] => done
  | s :: ss => s.andThen (all ss)

/-- The writes among the changes. -/
def writes (s : Script) : List (Write Schema.record) := s.changes.filterMap Change.write?

theorem andThen_of_ok {s : Script} {u : Unit} (h : s.result = .ok u) (t : Script) :
    s.andThen t = ⟨s.changes ++ t.changes, t.result⟩ := by
  rw [andThen]
  split
  · rfl
  · next e he => cases h.symm.trans he

theorem andThen_of_error {s : Script} {e : ExtractError} (h : s.result = .error e) (t : Script) :
    s.andThen t = ⟨s.changes, .error e⟩ := by
  rw [andThen]
  split
  · next hok => cases h.symm.trans hok
  · next x hx =>
    obtain rfl := Except.error.inj (h.symm.trans hx)
    rfl

theorem andThen_assoc (s t u : Script) : (s.andThen t).andThen u = s.andThen (t.andThen u) := by
  obtain ⟨cs, x⟩ := s
  obtain ⟨ds, y⟩ := t
  cases x with
  | error e => rfl
  | ok =>
    cases y with
    | error e => rfl
    | ok => cases hu : u.result <;> simp [andThen, hu]

theorem all_append (ss ts : List Script) : all (ss ++ ts) = (all ss).andThen (all ts) := by
  induction ss with
  | nil => rfl
  | cons s ss ih => rw [List.cons_append, all, all, ih, andThen_assoc]

theorem mem_changes_andThen {s t : Script} {c : Change} (h : c ∈ (s.andThen t).changes) :
    c ∈ s.changes ∨ c ∈ t.changes := by
  unfold andThen at h
  split at h
  · exact List.mem_append.mp h
  · exact Or.inl h

theorem exists_mem_of_mem_changes_all {ss : List Script} {c : Change}
    (h : c ∈ (all ss).changes) : ∃ s ∈ ss, c ∈ s.changes := by
  induction ss with
  | nil => exact absurd h List.not_mem_nil
  | cons s ss ih =>
    rcases mem_changes_andThen h with h | h
    · exact ⟨s, List.mem_cons_self, h⟩
    · obtain ⟨t, ht, hc⟩ := ih h
      exact ⟨t, List.mem_cons_of_mem s ht, hc⟩

theorem result_andThen_eq_ok_iff {s t : Script} :
    (s.andThen t).result = .ok () ↔ s.result = .ok () ∧ t.result = .ok () := by
  unfold andThen
  split
  · next h => simp [h]
  · next e h => simp [h]

theorem changes_andThen {s : Script} (h : s.result = .ok ()) (t : Script) :
    (s.andThen t).changes = s.changes ++ t.changes := by
  rw [andThen_of_ok h]

theorem result_all_eq_ok_iff {ss : List Script} :
    (all ss).result = .ok () ↔ ∀ s ∈ ss, s.result = .ok () := by
  induction ss with
  | nil => simp [all, done]
  | cons s ss ih => rw [all, result_andThen_eq_ok_iff, ih, List.forall_mem_cons]

theorem changes_all {ss : List Script} (h : ∀ s ∈ ss, s.result = .ok ()) :
    (all ss).changes = ss.flatMap Script.changes := by
  induction ss with
  | nil => rfl
  | cons s ss ih =>
    obtain ⟨hs, hss⟩ := List.forall_mem_cons.mp h
    rw [all, changes_andThen hs, ih hss, List.flatMap_cons]

/-- Scripts fail at the first of them that fails, after the changes of those before it and what this
one has changed itself. -/
theorem exists_of_result_all_eq_error {ss : List Script} {e : ExtractError}
    (h : (all ss).result = .error e) :
    ∃ before s after, ss = before ++ s :: after ∧ (all before).result = .ok () ∧
      s.result = .error e ∧ (all ss).changes = (all before).changes ++ s.changes := by
  induction ss with
  | nil => cases h
  | cons s ss ih =>
    cases hs : s.result with
    | error x =>
      have hall : all (s :: ss) = ⟨s.changes, .error x⟩ := by rw [all, andThen_of_error hs]
      rw [hall] at h
      refine ⟨[], s, ss, rfl, rfl, hs.trans h, ?_⟩
      rw [hall]
      rfl
    | ok u =>
      have hall : all (s :: ss) = ⟨s.changes ++ (all ss).changes, (all ss).result⟩ := by
        rw [all, andThen_of_ok hs]
      rw [hall] at h
      obtain ⟨before, t, after, rfl, hbefore, ht, hchanges⟩ := ih h
      refine ⟨s :: before, t, after, rfl, result_andThen_eq_ok_iff.mpr ⟨hs, hbefore⟩, ht, ?_⟩
      rw [hall, hchanges, all, changes_andThen hs, List.append_assoc]

end Script

namespace RecordM

/-- A computation makes the changes of a script on every record, and has its result. -/
def Performs (m : RecordM Unit) (s : Script) : Prop :=
  ∀ r, m.runOn r = (s.result, r.applyAll s.changes)

theorem performs_pure : Performs (pure ()) .done := fun _ => rfl

theorem performs_throw (e : ExtractError) : Performs (throw e) (.fail e) := fun _ => rfl

theorem performs_warn (message : String) :
    Performs (modify fun r => r.warn message) (.change (.warn message)) := fun _ => rfl

theorem performs_release : Performs (modify Record.release) (.change .release) := fun _ => rfl

theorem Performs.andThen {m n : RecordM Unit} {s t : Script} (hm : m.Performs s)
    (hn : n.Performs t) : Performs (do m; n) (s.andThen t) := by
  intro r
  rw [runOn_bind, hm r, Script.andThen]
  cases s.result with
  | error e => rfl
  | ok u =>
    rw [Record.applyAll_append]
    exact hn _

theorem Performs.forM {α : Type} {f : α → RecordM Unit} {g : α → Script}
    (h : ∀ x, (f x).Performs (g x)) (xs : List α) : Performs (xs.forM f) (.all (xs.map g)) := by
  induction xs with
  | nil => exact performs_pure
  | cons x xs ih => exact (h x).andThen ih

end RecordM

/-- The write of a text, or the error of a text that does not convert. -/
def Target.script (t : Target) (text : String) : Script :=
  match t.write? text with
  | some w => .change (.put w)
  | none => .fail (.conversion t.path text t.address.field.type)

theorem Target.performs_store (t : Target) (text : String) :
    (t.store text).Performs (t.script text) := by
  intro r
  rw [runOn_store, script]
  cases t.write? text with
  | none => rfl
  | some w => rfl

namespace Action

def scriptOfParts (all : List String) : List Target → List String → Script
  | _, [] => .done
  | [], _ :: _ => .fail (.tooManyValues all)
  | t :: ts, part :: parts => (t.script part).andThen (scriptOfParts all ts parts)

def scriptOfMissing (value : String) : Option (List Char) → Script
  | none => .done
  | some separator => .change (.warn (missingMessage (String.ofList separator) value))

def script (value : String) : Action → Script
  | direct t => t.script value
  | preset t literal => t.script literal
  | conditional expected t literal =>
    match Text.readBool value with
    | none => .fail (.condition value)
    | some actual => if actual = expected then t.script literal else .done
  | parse targets separators =>
    let split := Split.ofValue separators value.toList
    let parts := split.values.map String.ofList
    (scriptOfMissing value split.missing).andThen (scriptOfParts parts targets parts)

theorem performs_storeParts (all : List String) (ts : List Target) (parts : List String) :
    (storeParts all ts parts).Performs (scriptOfParts all ts parts) := by
  induction parts generalizing ts with
  | nil =>
    rw [storeParts, scriptOfParts]
    exact RecordM.performs_pure
  | cons part parts ih =>
    cases ts with
    | nil => exact RecordM.performs_throw _
    | cons t ts => exact (t.performs_store part).andThen (ih ts)

theorem performs_noteMissing (value : String) (missing : Option (List Char)) :
    (noteMissing value missing).Performs (scriptOfMissing value missing) := by
  cases missing with
  | none => exact RecordM.performs_pure
  | some separator => exact RecordM.performs_warn _

theorem performs_run (value : String) (a : Action) : (a.run value).Performs (a.script value) := by
  cases a with
  | direct t => exact t.performs_store value
  | preset t literal => exact t.performs_store literal
  | conditional expected t literal =>
    rw [run, script]
    cases Text.readBool value with
    | none => exact RecordM.performs_throw _
    | some actual =>
      dsimp only
      split
      · exact t.performs_store literal
      · exact RecordM.performs_pure
  | parse targets separators =>
    exact (performs_noteMissing value _).andThen (performs_storeParts _ targets _)

end Action

def Setter.script (s : Setter) (value : String) : Script :=
  .all (s.actions.map (Action.script value))

theorem Setter.performs_apply (s : Setter) (value : String) :
    (s.apply value).Performs (s.script value) :=
  .forM (Action.performs_run value) s.actions

def Visit.script : Visit → Script
  | event e => e.setter.script e.text
  | misfit m => .fail m.error

theorem Visit.performs_run (v : Visit) : v.run.Performs v.script := by
  cases v with
  | event e => exact e.setter.performs_apply e.text
  | misfit m => exact RecordM.performs_throw _

/-- What the walk of a document does to a record. -/
def Template.script (t : Template) : Document → Script
  | .map entries => .all ((TemplateNode.visitsOfEntries t.root entries).map Visit.script)
  | other => .fail (.document (.rootKind other.kind))

theorem Template.performs_extractInto (t : Template) (document : Document) :
    (t.extractInto document).Performs (t.script document) := by
  cases document with
  | map entries =>
    rw [extractInto, TemplateNode.walk_eq_runAll, script]
    exact .forM Visit.performs_run _
  | array items => exact RecordM.performs_throw _
  | scalar scalar => exact RecordM.performs_throw _
  | null => exact RecordM.performs_throw _

end ServiceAtlas
