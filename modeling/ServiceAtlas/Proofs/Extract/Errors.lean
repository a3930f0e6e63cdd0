import ServiceAtlas.Extract.Walk
import ServiceAtlas.Proofs.Extract.Script

/-!
# The two classes of errors

The compilation of a template and the walk of a document share the reading of keys, and a setter
that is built in the one runs in the other. Still no error can come from both: its class is followed
from the segments of a leaf up to a template, and from the parts of a value up to a document.
-/
namespace ServiceAtlas

namespace ExtractError

/-- Errors of the segments of one leaf. -/
inductive IsOfLeaf : ExtractError → Prop
  | path (path : String) : IsOfLeaf (.invalidPath path)
  | segment (segment : String) (fault : SegmentFault) : IsOfLeaf (.invalidSegment segment fault)

/-- Errors of a whole template: what is wrong with a leaf comes with the text of that leaf. -/
inductive IsOfTemplate : ExtractError → Prop
  | template (fault : TemplateFault) : IsOfTemplate (.template fault)
  | leaf (text : String) {cause : ExtractError} (h : cause.IsOfLeaf) :
    IsOfTemplate (.leaf text cause)

/-- Errors of one document, met by a template that is compiled. -/
inductive IsOfDocument : ExtractError → Prop
  | document (fault : DocumentFault) : IsOfDocument (.document fault)
  | shape (key : String) (found : DocumentKind) (expected : NodeKind) :
    IsOfDocument (.unsupportedShape key found expected)
  | conversion (path value : String) (expected : FieldType) :
    IsOfDocument (.conversion path value expected)
  | condition (value : String) : IsOfDocument (.condition value)
  | tooManyValues (values : List String) : IsOfDocument (.tooManyValues values)

theorem IsOfTemplate.isCompileTime {e : ExtractError} (h : e.IsOfTemplate) :
    e.isCompileTime = true := by
  cases h <;> rfl

theorem IsOfDocument.isCompileTime {e : ExtractError} (h : e.IsOfDocument) :
    e.isCompileTime = false := by
  cases h <;> rfl

end ExtractError

open ExtractError (IsOfLeaf IsOfTemplate IsOfDocument)

/-- If the computation fails, its error is of a class. -/
def Raises {α : Type} (p : ExtractError → Prop) (x : Except ExtractError α) : Prop :=
  ∀ e, x = .error e → p e

/-- The error of a computation that fails. -/
def error? {α : Type} : Except ExtractError α → Option ExtractError
  | .ok _ => none
  | .error e => some e

theorem eq_error_of_error? {α : Type} {x : Except ExtractError α} {e : ExtractError}
    (h : error? x = some e) : x = .error e := by
  cases x with
  | ok a => cases h
  | error e' => rw [Option.some.inj h]

section
variable {α β γ : Type} {x : Except ExtractError α}

theorem error?_eq_some_iff {e : ExtractError} : error? x = some e ↔ x = .error e := by
  constructor
  · exact eq_error_of_error?
  · rintro rfl
    rfl

theorem error?_eq_none_iff : error? x = none ↔ ∃ a, x = .ok a := by
  cases x <;> simp [error?]

theorem error?_map (x : Except ExtractError α) (f : α → β) : error? (x.map f) = error? x := by
  cases x <;> rfl

/-- Of two computations the first that fails has the error. -/
theorem error?_pair (x : Except ExtractError α) (y : Except ExtractError β) (f : α → β → γ) :
    error? (do let a ← x; let b ← y; return f a b) = (error? x).or (error? y) := by
  cases x <;> cases y <;> rfl

end

namespace Raises

variable {α β : Type} {p : ExtractError → Prop}

theorem ok (a : α) : Raises p (.ok a) := by
  intro e h
  cases h

theorem error {e : ExtractError} (h : p e) : Raises p (.error e : Except ExtractError α) := by
  intro e' h'
  obtain rfl := Except.error.inj h'
  exact h

theorem bind {x : Except ExtractError α} {f : α → Except ExtractError β} (hx : Raises p x)
    (hf : ∀ a, Raises p (f a)) : Raises p (x >>= f) := by
  cases x with
  | ok a => exact hf a
  | error e => exact error (hx e rfl)

theorem map {x : Except ExtractError α} (hx : Raises p x) (f : α → β) : Raises p (x.map f) := by
  cases x with
  | ok a => exact ok (f a)
  | error e => exact error (hx e rfl)

theorem mapM {f : α → Except ExtractError β} (hf : ∀ a, Raises p (f a)) (as : List α) :
    Raises p (as.mapM f) := by
  induction as with
  | nil => exact ok []
  | cons a as ih =>
    rw [List.mapM_cons]
    refine (hf a).bind ?_
    intro b
    exact ih.bind fun bs => ok (b :: bs)

theorem foldlM {f : β → α → Except ExtractError β} (hf : ∀ b a, Raises p (f b a)) (b : β)
    (as : List α) : Raises p (as.foldlM f b) := by
  induction as generalizing b with
  | nil => exact ok b
  | cons a as ih =>
    rw [List.foldlM_cons]
    exact (hf b a).bind ih

end Raises

section Compilation

namespace Segment

theorem raises_readWeight (segment rest : List Char) :
    Raises IsOfLeaf (readWeight segment rest) := by
  rw [readWeight]
  cases Text.readInt64 rest with
  | ok n => exact .ok _
  | error fault => exact .error (.segment _ _)

theorem raises_readConditional (segment rest : List Char) :
    Raises IsOfLeaf (readConditional segment rest) := by
  rw [readConditional]
  cases Text.cut? [' '] rest with
  | none => exact .error (.segment _ _)
  | some halves =>
    obtain ⟨condition, assignment⟩ := halves
    dsimp only
    cases Text.readBool (String.ofList condition) with
    | none => exact .error (.segment _ _)
    | some expected =>
      dsimp only
      cases Text.cut? " = ".toList assignment with
      | none => exact .error (.segment _ _)
      | some assigned => exact .ok _

theorem raises_readParse (segment rest : List Char) : Raises IsOfLeaf (readParse segment rest) := by
  rw [readParse]
  split
  · exact .error (.segment _ _)
  · exact .ok _

theorem raises_read (segment : List Char) : Raises IsOfLeaf (read segment) := by
  -- The forms are tried in turn; only the first three can fail once they are recognised.
  rw [read]
  cases Text.after? "weight ".toList segment with
  | some rest => exact raises_readWeight segment rest
  | none =>
    cases Text.after? "if ".toList segment with
    | some rest => exact raises_readConditional segment rest
    | none =>
      cases Text.after? "parse ".toList segment with
      | some rest => exact raises_readParse segment rest
      | none =>
        cases Text.cut? " = ".toList segment with
        | some assigned => exact .ok _
        | none => exact .ok _

end Segment

theorem Target.raises_resolve (path : String) : Raises IsOfLeaf (resolve path) := by
  rw [resolve]
  cases Schema.record.address? (parts path).tail with
  | some address => exact .ok _
  | none => exact .error (.path path)

namespace Setter

theorem raises_resolve (path : List Char) : Raises IsOfLeaf (resolve path) :=
  Target.raises_resolve _

theorem raises_add (s : Setter) (segment : Segment) : Raises IsOfLeaf (s.add segment) := by
  cases segment with
  | weight n => exact .ok _
  | conditional expected path literal => exact (raises_resolve path).bind fun _ => .ok _
  | parse pattern => exact (Raises.mapM raises_resolve pattern.paths).bind fun _ => .ok _
  | preset path literal => exact (raises_resolve path).bind fun _ => .ok _
  | direct path => exact (raises_resolve path).bind fun _ => .ok _

theorem raises_compile (leaf : String) : Raises IsOfLeaf (compile leaf) :=
  .foldlM (fun s segment => (Segment.raises_read segment).bind s.raises_add) _ _

end Setter

namespace TemplateNode

theorem raises_compileLeaf (text : String) : Raises IsOfTemplate (compileLeaf text) := by
  have h := Setter.raises_compile text
  rw [compileLeaf]
  cases hc : Setter.compile text with
  | ok setter => exact .ok _
  | error cause => exact .error (.leaf text (h cause hc))

mutual

theorem raises_compile (value : Yaml.Value) : Raises IsOfTemplate (compile value) := by
  cases value with
  | null => exact .error (.template _)
  | boolean b => exact raises_compileLeaf _
  | integer n => exact raises_compileLeaf _
  | float x => exact raises_compileLeaf _
  | string s => exact raises_compileLeaf s
  | sequence items =>
    cases items with
    | nil => exact .ok _
    | cons first items =>
      rw [compile]
      exact (raises_compile first).map _
  | mapping entries =>
    rw [compile]
    exact (raises_compileEntries entries).map _
  | tagged tag value =>
    rw [compile]
    exact raises_compile value

theorem raises_compileEntries (entries : List (Yaml.Value × Yaml.Value)) :
    Raises IsOfTemplate (compileEntries entries) := by
  cases entries with
  | nil => exact .ok _
  | cons entry entries =>
    obtain ⟨key, value⟩ := entry
    rw [compileEntries]
    cases Document.keyText? key with
    -- A key that is no scalar is a fault of the template here, and of the document in its decoding.
    | none => exact .error (.template .keyNotScalar)
    | some key =>
      refine (raises_compile value).bind ?_
      intro node
      exact (raises_compileEntries entries).bind fun _ => .ok _

end

end TemplateNode

namespace Template

theorem raises_ofValue (value : Yaml.Value) : Raises IsOfTemplate (ofValue value) := by
  rw [ofValue]
  split
  · exact .error (.template .empty)
  · refine (TemplateNode.raises_compile value).bind ?_
    intro node
    cases node with
    | map children => exact .ok _
    | array element => exact .error (.template _)
    | leaf setter => exact .error (.template _)

theorem raises_ofText (text : String) : Raises IsOfTemplate (ofText text) := by
  rw [ofText]
  cases Yaml.Value.ofText (Quoting.quote text) with
  | ok value => exact raises_ofValue value
  | error fault => exact .error (.template _)

theorem raises_ofBytes (bytes : Text.Bytes) : Raises IsOfTemplate (ofBytes bytes) := by
  rw [ofBytes]
  cases Text.decodeUtf8 bytes with
  | ok text => exact raises_ofText _
  | error fault => exact .error (.template _)

end Template

end Compilation

section Scripts

namespace Script

theorem raises_andThen {p : ExtractError → Prop} {s t : Script} (hs : Raises p s.result)
    (ht : Raises p t.result) : Raises p (s.andThen t).result := by
  rw [andThen]
  cases h : s.result with
  | ok u => exact ht
  | error e => exact .error (hs e h)

theorem raises_all {p : ExtractError → Prop} {α : Type} {f : α → Script}
    (hf : ∀ a, Raises p (f a).result) (as : List α) : Raises p (all (as.map f)).result := by
  induction as with
  | nil => exact .ok ()
  | cons a as ih => exact raises_andThen (hf a) ih

end Script

theorem Target.raises_script (t : Target) (text : String) :
    Raises IsOfDocument (t.script text).result := by
  rw [script]
  cases t.write? text with
  | some w => exact .ok ()
  | none => exact .error (.conversion _ _ _)

namespace Action

theorem raises_scriptOfParts (all : List String) (ts : List Target) (parts : List String) :
    Raises IsOfDocument (scriptOfParts all ts parts).result := by
  induction parts generalizing ts with
  | nil =>
    rw [scriptOfParts]
    exact .ok ()
  | cons part parts ih =>
    cases ts with
    | nil => exact .error (.tooManyValues all)
    | cons t ts => exact Script.raises_andThen (t.raises_script part) (ih ts)

theorem raises_script (value : String) (a : Action) :
    Raises IsOfDocument (a.script value).result := by
  cases a with
  | direct t => exact t.raises_script value
  | preset t literal => exact t.raises_script literal
  | conditional expected t literal =>
    rw [script]
    cases Text.readBool value with
    | none => exact .error (.condition value)
    | some actual =>
      dsimp only
      split
      · exact t.raises_script literal
      · exact .ok ()
  | parse targets separators =>
    refine Script.raises_andThen ?_ (raises_scriptOfParts _ targets _)
    cases (Split.ofValue separators value.toList).missing with
    | none => exact .ok ()
    | some separator => exact .ok ()

end Action

theorem Visit.raises_script (v : Visit) : Raises IsOfDocument v.script.result := by
  cases v with
  | event e => exact Script.raises_all (Action.raises_script e.text) e.setter.actions
  | misfit m => exact .error (.shape m.key m.found m.expected)

theorem Template.raises_script (t : Template) (document : Document) :
    Raises IsOfDocument (t.script document).result := by
  cases document with
  | map entries => exact Script.raises_all Visit.raises_script _
  | array items => exact .error (.document _)
  | scalar scalar => exact .error (.document _)
  | null => exact .error (.document _)

end Scripts

namespace Document

mutual

theorem raises_ofValue (value : Yaml.Value) : Raises IsOfDocument (ofValue value) := by
  cases value with
  | null => exact .ok _
  | boolean b => exact .ok _
  | integer n => exact .ok _
  | float x => exact .ok _
  | string s => exact .ok _
  | sequence items =>
    rw [ofValue]
    exact (raises_ofItems items).map _
  | mapping entries =>
    rw [ofValue]
    exact (raises_ofEntries entries).map _
  | tagged tag value =>
    rw [ofValue]
    exact raises_ofValue value

theorem raises_ofItems (items : List Yaml.Value) : Raises IsOfDocument (ofItems items) := by
  cases items with
  | nil => exact .ok _
  | cons item items =>
    rw [ofItems]
    refine (raises_ofValue item).bind ?_
    intro item
    exact (raises_ofItems items).bind fun _ => .ok _

theorem raises_ofEntries (entries : List (Yaml.Value × Yaml.Value)) :
    Raises IsOfDocument (ofEntries entries) := by
  cases entries with
  | nil => exact .ok _
  | cons entry entries =>
    obtain ⟨key, value⟩ := entry
    rw [ofEntries]
    cases keyText? key with
    | none => exact .error (.document .keyNotScalar)
    | some key =>
      refine (raises_ofValue value).bind ?_
      intro value
      exact (raises_ofEntries entries).bind fun _ => .ok _

end

theorem raises_ofRoot (value : Yaml.Value) : Raises IsOfDocument (ofRoot value) := by
  refine (raises_ofValue value).bind ?_
  intro document
  cases document with
  | map entries => exact .ok _
  | array items => exact .error (.document _)
  | scalar scalar => exact .error (.document _)
  | null => exact .ok _

theorem raises_ofBytes (bytes : Text.Bytes) : Raises IsOfDocument (ofBytes bytes) := by
  rw [ofBytes]
  cases Yaml.Value.ofBytes bytes with
  | ok value => exact raises_ofRoot value
  | error fault => exact .error (.document _)

end Document

namespace Template

theorem raises_extractInto (t : Template) (document : Document) (r : Record) :
    Raises IsOfDocument ((t.extractInto document).runOn r).1 := by
  rw [t.performs_extractInto document r]
  exact t.raises_script document

theorem raises_extract (t : Template) (bytes : Text.Bytes) :
    Raises IsOfDocument (t.extract bytes) := by
  refine (Document.raises_ofBytes bytes).bind ?_
  intro document
  have h := t.raises_extractInto document .empty
  cases hr : (t.extractInto document).runOn .empty with
  | mk x r =>
    cases x with
    | ok u => exact .ok _
    | error e => exact .error (h e (congrArg Prod.fst hr))

/-- Whatever bytes a template is compiled from, an error is one of the template; whatever document
the template then meets, and on whatever record, an error is one of the document. -/
theorem error_classes :
    (∀ bytes e, ofBytes bytes = .error e → e.IsOfTemplate ∧ e.isCompileTime = true) ∧
      (∀ (t : Template) bytes e, t.extract bytes = .error e →
        e.IsOfDocument ∧ e.isCompileTime = false) ∧
      ∀ (t : Template) document r e r', (t.extractInto document).runOn r = (.error e, r') →
        e.IsOfDocument ∧ e.isCompileTime = false := by
  refine ⟨?_, ?_, ?_⟩
  · intro bytes e h
    have he := raises_ofBytes bytes e h
    exact ⟨he, he.isCompileTime⟩
  · intro t bytes e h
    have he := t.raises_extract bytes e h
    exact ⟨he, he.isCompileTime⟩
  · intro t document r e r' h
    have he := t.raises_extractInto document r e (congrArg Prod.fst h)
    exact ⟨he, he.isCompileTime⟩

/-- A sequence in the place of a key is a fault of the template or of the document that has it. -/
theorem error_classes_key :
    let bytes := Text.encodeUtf8 "[a]: b"
    let name : Target := ⟨"all.kafka.name", .beside (.beside (.scalar .here))⟩
    let t : Template := ⟨[("*", .leaf ⟨0, [.direct name]⟩)]⟩
    (ofBytes bytes = .error (.template .keyNotScalar) ∧
      IsOfTemplate (.template .keyNotScalar) ∧
        (ExtractError.template .keyNotScalar).isCompileTime = true) ∧
      (t.extract bytes = .error (.document .keyNotScalar) ∧
        IsOfDocument (.document .keyNotScalar) ∧
          (ExtractError.document .keyNotScalar).isCompileTime = false) ∧
      ∃ r', (t.extractInto (.map [("a", .null)])).runOn .empty =
          (.error (.unsupportedShape "a" .null .setter), r') ∧
        IsOfDocument (.unsupportedShape "a" .null .setter) ∧
          (ExtractError.unsupportedShape "a" .null .setter).isCompileTime = false := by
  intro bytes name t
  have ht : ofBytes bytes = .error (.template .keyNotScalar) :=
    eq_error_of_error? (by decide +kernel)
  have hd : t.extract bytes = .error (.document .keyNotScalar) :=
    eq_error_of_error? (by decide +kernel)
  refine ⟨⟨ht, ?_⟩, ⟨hd, ?_⟩, _, rfl, ?_⟩
  · exact error_classes.1 bytes _ ht
  · exact error_classes.2.1 t bytes _ hd
  · exact error_classes.2.2 t (.map [("a", .null)]) .empty _ _ rfl

end Template
end ServiceAtlas
