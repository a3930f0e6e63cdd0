import ServiceAtlas.Proofs.Extract.Errors
import ServiceAtlas.Proofs.Extract.Files
import ServiceAtlas.Proofs.Template.Mirror

/-!
# The first fault of a template

A template compiles when each part that it is followed into is sound: its keys are scalars, no value
is null and every leaf compiles. Otherwise the error is that of the first part that is not, in the
order of the document. The items of a sequence behind the first have no say in it.
-/
namespace ServiceAtlas

/-- A part of a template that the compilation can fail at. -/
inductive TemplatePart where
  | key (key : Yaml.Value)
  | null
  | leaf (text : String)

namespace TemplatePart

inductive Sound : TemplatePart → Prop
  | key {key : Yaml.Value} (h : key.untagged.isScalar = true) : Sound (.key key)
  | leaf {text : String} {setter : Setter} (h : Setter.compile text = .ok setter) :
    Sound (.leaf text)

/-- The error that a part is refused with. -/
inductive Faulty : TemplatePart → ExtractError → Prop
  | key {key : Yaml.Value} (h : key.untagged.isScalar = false) :
    Faulty (.key key) (.template .keyNotScalar)
  | null : Faulty .null (.template .emptyLeaf)
  | leaf {text : String} {cause : ExtractError} (h : Setter.compile text = .error cause) :
    Faulty (.leaf text) (.leaf text cause)

end TemplatePart

namespace Yaml.Value

mutual

/-- The parts of a template in the order of the document, a key before its value. Of a sequence only
those of the first item count. -/
def parts : Value → List TemplatePart
  | .null => [.null]
  | .boolean b => [.leaf (Text.boolText b)]
  | .integer n => [.leaf (toString n)]
  | .float x => [.leaf x.literalText]
  | .string s => [.leaf s]
  | .sequence [] => []
  | .sequence (first :: _) => parts first
  | .mapping entries => partsOfEntries entries
  | .tagged _ value => parts value

def partsOfEntries : List (Value × Value) → List TemplatePart
  | [] => []
  | (key, value) :: entries => .key key :: parts value ++ partsOfEntries entries

end

mutual

/-- A template with only the first item left of each sequence. -/
def headed : Value → Value
  | .sequence [] => .sequence []
  | .sequence (first :: _) => .sequence [headed first]
  | .mapping entries => .mapping (headedEntries entries)
  | .tagged tag value => .tagged tag (headed value)
  | scalar => scalar

def headedEntries : List (Value × Value) → List (Value × Value)
  | [] => []
  | (key, value) :: entries => (key, headed value) :: headedEntries entries

end

theorem eq_mapping_of_entries? {value : Value} {entries : List (Value × Value)}
    (h : value.entries? = some entries) : value = .mapping entries := by
  cases value with
  | mapping others => rw [Option.some.inj h]
  | _ => cases h

theorem isSome_keyText? (key : Value) :
    (Document.keyText? key).isSome = key.untagged.isScalar := by
  cases key with
  | tagged tag value =>
    rw [Document.keyText?, untagged]
    exact isSome_keyText? value
  | _ => rfl

end Yaml.Value

open Yaml (Value)
open Yaml.Value (parts partsOfEntries headed headedEntries untagged isScalar)

namespace TemplatePart

/-- The error of a part, if it has one. -/
def fault? : TemplatePart → Option ExtractError
  | key k => if (Document.keyText? k).isSome then none else some (.template .keyNotScalar)
  | null => some (.template .emptyLeaf)
  | leaf text => (error? (Setter.compile text)).map (.leaf text)

theorem fault?_eq_none_iff {part : TemplatePart} : part.fault? = none ↔ part.Sound := by
  constructor
  · intro h
    cases part with
    | key k =>
      refine .key ?_
      rw [← Yaml.Value.isSome_keyText?]
      by_contra hkey
      rw [fault?, if_neg hkey] at h
      cases h
    | null => cases h
    | leaf text =>
      obtain ⟨setter, hs⟩ := error?_eq_none_iff.mp (Option.map_eq_none_iff.mp h)
      exact .leaf hs
  · intro h
    cases h with
    | key hkey => rw [fault?, Yaml.Value.isSome_keyText?, if_pos hkey]
    | leaf hs => rw [fault?, error?_eq_none_iff.mpr ⟨_, hs⟩, Option.map_none]

theorem fault?_eq_some_iff {part : TemplatePart} {e : ExtractError} :
    part.fault? = some e ↔ part.Faulty e := by
  constructor
  · intro h
    cases part with
    | key k =>
      rw [fault?, Yaml.Value.isSome_keyText?] at h
      split at h
      · cases h
      · next hkey =>
        obtain rfl := Option.some.inj h
        exact .key (Bool.eq_false_iff.mpr hkey)
    | null =>
      obtain rfl := Option.some.inj h
      exact .null
    | leaf text =>
      obtain ⟨cause, hcause, rfl⟩ := Option.map_eq_some_iff.mp h
      exact .leaf (error?_eq_some_iff.mp hcause)
  · intro h
    cases h with
    | key hkey => rw [fault?, Yaml.Value.isSome_keyText?, hkey, if_neg Bool.false_ne_true]
    | null => rfl
    | leaf hs => rw [fault?, error?_eq_some_iff.mpr hs, Option.map_some]

end TemplatePart

namespace TemplateNode

theorem error?_compileLeaf (text : String) :
    error? (compileLeaf text) = [TemplatePart.leaf text].findSome? TemplatePart.fault? := by
  rw [compileLeaf, List.findSome?_singleton, TemplatePart.fault?]
  cases Setter.compile text <;> rfl

-- The induction is on the template, together with the entries of a mapping.
mutual

/-- A template fails at the first of its parts that has a fault. -/
theorem error?_compile (value : Value) :
    error? (compile value) = value.parts.findSome? TemplatePart.fault? := by
  cases value with
  | null => rfl
  | boolean b => exact error?_compileLeaf _
  | integer n => exact error?_compileLeaf _
  | float x => exact error?_compileLeaf _
  | string s => exact error?_compileLeaf s
  | sequence items =>
    cases items with
    | nil => rfl
    | cons first items =>
      rw [compile, error?_map, parts]
      exact error?_compile first
  | mapping entries =>
    rw [compile, error?_map, parts]
    exact error?_compileEntries entries
  | tagged tag value =>
    rw [compile, parts]
    exact error?_compile value

theorem error?_compileEntries (entries : List (Value × Value)) :
    error? (compileEntries entries) =
      (partsOfEntries entries).findSome? TemplatePart.fault? := by
  cases entries with
  | nil => rfl
  | cons entry entries =>
    obtain ⟨key, value⟩ := entry
    rw [partsOfEntries, List.cons_append, List.findSome?_cons, List.findSome?_append,
      ← error?_compile value, ← error?_compileEntries entries, compileEntries, TemplatePart.fault?]
    cases Document.keyText? key with
    | none => rfl
    | some text => exact error?_pair _ _ _

end

mutual

theorem compile_headed (value : Value) : compile value.headed = compile value := by
  cases value with
  | sequence items =>
    cases items with
    | nil => rfl
    | cons first items =>
      rw [headed, compile, compile, compile_headed first]
  | mapping entries => rw [headed, compile, compile, compileEntries_headedEntries entries]
  | tagged tag value => rw [headed, compile, compile, compile_headed value]
  | _ => rfl

theorem compileEntries_headedEntries (entries : List (Value × Value)) :
    compileEntries (headedEntries entries) = compileEntries entries := by
  cases entries with
  | nil => rfl
  | cons entry entries =>
    obtain ⟨key, value⟩ := entry
    rw [headedEntries, compileEntries, compileEntries, compile_headed value,
      compileEntries_headedEntries entries]

end

theorem compileLeaf_ne_map (text : String) (root : List (String × TemplateNode)) :
    compileLeaf text ≠ .ok (.map root) := by
  intro h
  obtain ⟨setter, hsetter⟩ := exists_leaf_of_compileLeaf h
  cases hsetter

/-- Only a mapping compiles to a map node. -/
theorem exists_mapping_of_compile (value : Value) {root : List (String × TemplateNode)}
    (h : compile value = .ok (.map root)) : ∃ entries, value.untagged = .mapping entries := by
  cases value with
  | null => cases h
  | boolean b => exact absurd h (compileLeaf_ne_map _ root)
  | integer n => exact absurd h (compileLeaf_ne_map _ root)
  | float x => exact absurd h (compileLeaf_ne_map _ root)
  | string s => exact absurd h (compileLeaf_ne_map s root)
  | sequence items =>
    cases items with
    | nil => cases h
    | cons first items =>
      rw [compile] at h
      obtain ⟨node, -, hnode⟩ := map_eq_ok_iff.mp h
      cases hnode
  | mapping entries => exact ⟨entries, rfl⟩
  | tagged tag value =>
    rw [compile] at h
    exact exists_mapping_of_compile value h

end TemplateNode

namespace Template

theorem isNull_headed (value : Value) : isNull value.headed = isNull value := by
  cases value with
  | sequence items => cases items <;> rfl
  | tagged tag value => exact isNull_headed value
  | _ => rfl

theorem ofValue_headed (value : Value) : ofValue value.headed = ofValue value := by
  rw [ofValue, ofValue, isNull_headed, TemplateNode.compile_headed]

theorem isNull_eq (value : Value) : isNull value = isNull value.untagged := by
  cases value with
  | tagged tag value => exact isNull_eq value
  | _ => rfl

theorem compile_ne_ok_of_isNull {value : Value} (h : isNull value = true) (node : TemplateNode) :
    TemplateNode.compile value ≠ .ok node := by
  cases value with
  | null => nofun
  | tagged tag value =>
    rw [isNull] at h
    rw [TemplateNode.compile]
    exact compile_ne_ok_of_isNull h node
  | _ => cases h

/-- A template is what compiles to a map node. -/
theorem ofValue_eq_ok_iff {value : Value} {t : Template} :
    ofValue value = .ok t ↔ TemplateNode.compile value = .ok (.map t.root) := by
  rw [ofValue]
  split
  · next hnull =>
    constructor
    · intro h
      cases h
    · intro h
      exact absurd h (compile_ne_ok_of_isNull hnull _)
  · rw [bind_eq_ok_iff]
    constructor
    · rintro ⟨node, hnode, ht⟩
      cases node with
      | map root =>
        obtain rfl := Except.ok.inj ht
        exact hnode
      | array element => cases ht
      | leaf setter => cases ht
    · intro h
      exact ⟨.map t.root, h, rfl⟩

theorem exists_mapping_of_ofValue {value : Value} {t : Template} (h : ofValue value = .ok t) :
    ∃ entries, value.untagged = .mapping entries :=
  TemplateNode.exists_mapping_of_compile value (ofValue_eq_ok_iff.mp h)

/-- A mapping fails as a template where it fails as a node. -/
theorem error?_ofValue {value : Value} {entries : List (Value × Value)}
    (h : value.untagged = .mapping entries) :
    error? (ofValue value) = error? (TemplateNode.compile value) := by
  rw [ofValue, isNull_eq, ← TemplateNode.compile_untagged, h, TemplateNode.compile]
  cases TemplateNode.compileEntries entries <;> rfl

theorem ofText_eq_ofValue {text : String} {value : Value}
    (h : Value.ofText (Quoting.quote text) = .ok value) : ofText text = ofValue value := by
  rw [ofText, h]

/-- A text that is read as a value compiles just when this is a mapping whose parts are all sound.
When it is a mapping with other parts, the error is that of the first of these. What stands behind
the first item of a sequence has no say. -/
theorem ofText_first_fault {text : String} {value : Value}
    (h : Value.ofText (Quoting.quote text) = .ok value) :
    ((∃ t, ofText text = .ok t) ↔
      (∃ entries, value.untagged = .mapping entries) ∧ ∀ part ∈ value.parts, part.Sound) ∧
    (∀ entries, value.untagged = .mapping entries → ∀ e, ofText text = .error e ↔
      ∃ before part after, value.parts = before ++ part :: after ∧ part.Faulty e ∧
        ∀ other ∈ before, other.Sound) ∧
    ∀ other value', Value.ofText (Quoting.quote other) = .ok value' →
      value'.headed = value.headed → ofText other = ofText text := by
  have hsound : error? (TemplateNode.compile value) = none ↔ ∀ part ∈ value.parts, part.Sound := by
    simp only [TemplateNode.error?_compile, List.findSome?_eq_none_iff,
      TemplatePart.fault?_eq_none_iff]
  rw [ofText_eq_ofValue h]
  refine ⟨?_, ?_, ?_⟩
  · constructor
    · rintro ⟨t, ht⟩
      obtain ⟨entries, hentries⟩ := exists_mapping_of_ofValue ht
      rw [← hsound, ← error?_ofValue hentries]
      exact ⟨⟨entries, hentries⟩, error?_eq_none_iff.mpr ⟨t, ht⟩⟩
    · rintro ⟨⟨entries, hentries⟩, hparts⟩
      exact error?_eq_none_iff.mp ((error?_ofValue hentries).trans (hsound.mpr hparts))
  · intro entries hentries e
    rw [← error?_eq_some_iff, error?_ofValue hentries, TemplateNode.error?_compile,
      List.findSome?_eq_some_iff]
    simp only [TemplatePart.fault?_eq_none_iff, TemplatePart.fault?_eq_some_iff]
  · intro other value' hother hheaded
    rw [ofText_eq_ofValue hother, ← ofValue_headed, hheaded, ofValue_headed]

/-- The leaf under a number is refused, though another entry has a key with the same text. The bad
host is not the first of its sequence, and the null behind comes too late. -/
theorem ofText_first_fault_shadowed :
    let text := "hosts:\n- \x7b\x7b all.kafka.host \x7d\x7d\n- bad\n" ++
      "1: \x7b\x7b worse \x7d\x7d\n'1': \x7b\x7b all.kafka.name \x7d\x7d\n~:\n"
    let e : ExtractError := .leaf "\x7b\x7b worse \x7d\x7d" (.invalidPath "worse")
    ∃ value entries, Value.ofText (Quoting.quote text) = .ok value ∧
      value.untagged = .mapping entries ∧ ofText text = .error e ∧
        ∃ before part after, value.parts = before ++ part :: after ∧ part.Faulty e ∧
          ∀ other ∈ before, other.Sound := by
  intro text e
  have hread : ((Value.ofText (Quoting.quote text)).toOption.bind fun value =>
      value.untagged.entries?).isSome = true := by
    decide +kernel
  obtain ⟨entries, hentries⟩ := Option.isSome_iff_exists.mp hread
  obtain ⟨value, hvalue, hmapping⟩ := Option.bind_eq_some_iff.mp hentries
  have h : Value.ofText (Quoting.quote text) = .ok value := toOption_eq_some_iff.mp hvalue
  have huntagged := Yaml.Value.eq_mapping_of_entries? hmapping
  have he : ofText text = .error e := eq_error_of_error? (by decide +kernel)
  exact ⟨value, entries, h, huntagged, he, ((ofText_first_fault h).2.1 entries huntagged e).mp he⟩

end Template
end ServiceAtlas
