import Mathlib.Data.List.Nodup
import ServiceAtlas.Proofs.Leaf.Compiled
import ServiceAtlas.Proofs.Template.Children

/-!
# Templates and their trees

A template is compiled into a tree of its own shape, with a setter for each scalar that is reached
through the entries of mappings and the first items of sequences. The keys of a mapping become
texts, and of the entries whose keys have one text only the last is kept. Where the texts of the keys
are different in every mapping no setter is lost, and each entry is found under its key.
-/
namespace ServiceAtlas

namespace Yaml.Value

mutual

/-- The values that a template is followed into, tags left off: all entries of a mapping and the
first item of a sequence. -/
def followed : Value → List Value
  | .sequence [] => [.sequence []]
  | .sequence (first :: items) => .sequence (first :: items) :: followed first
  | .mapping entries => .mapping entries :: followedOfEntries entries
  | .tagged _ value => followed value
  | scalar => [scalar]

def followedOfEntries : List (Value × Value) → List Value
  | [] => []
  | (_, value) :: entries => followed value ++ followedOfEntries entries

end

def isScalar : Value → Bool
  | null => true
  | boolean _ => true
  | integer _ => true
  | float _ => true
  | string _ => true
  | sequence _ => false
  | mapping _ => false
  | tagged _ _ => false

def entries? : Value → Option (List (Value × Value))
  | mapping entries => some entries
  | _ => none

/-- The texts of the keys of a mapping, where the keys are scalars. -/
def keyTexts (entries : List (Value × Value)) : List (Option String) :=
  entries.map fun entry => Document.keyText? entry.1

/-- The scalars that a template is followed into. -/
def leaves (value : Value) : List Value := value.followed.filter isScalar

/-- In none of some values two keys have the same text. -/
def KeysDiffer (values : List Value) : Prop :=
  ∀ entries ∈ values.filterMap entries?, (keyTexts entries).Nodup

instance (values : List Value) : Decidable (KeysDiffer values) :=
  inferInstanceAs (Decidable (∀ entries ∈ values.filterMap entries?, (keyTexts entries).Nodup))

def untagged : Value → Value
  | tagged _ value => value.untagged
  | value => value

theorem keysDiffer_append {values others : List Value} :
    KeysDiffer (values ++ others) ↔ KeysDiffer values ∧ KeysDiffer others := by
  simp only [KeysDiffer, List.filterMap_append, List.forall_mem_append]

theorem keysDiffer_cons {value : Value} {values : List Value} :
    KeysDiffer (value :: values) ↔ KeysDiffer [value] ∧ KeysDiffer values :=
  @keysDiffer_append [value] values

end Yaml.Value

namespace TemplateNode

open Yaml Yaml.Value

/-- What has become of some scalars: each has a setter, and a list of leaves is made of these
setters, of all of them unless two keys have the same text. -/
structure Mirrors (values : List Value) (leaves setters : List Setter) : Prop where
  compiled : (values.filter isScalar).mapM compile = .ok (setters.map leaf)
  subperm : leaves.Subperm setters
  perm : KeysDiffer values → leaves.Perm setters

theorem exists_leaf_of_compileLeaf {text : String} {node : TemplateNode}
    (h : compileLeaf text = .ok node) : ∃ setter, node = .leaf setter := by
  unfold compileLeaf at h
  split at h
  · next setter hs => exact ⟨setter, (Except.ok.inj h).symm⟩
  · cases h

theorem Mirrors.append {values others : List Value} {leaves setters : List Setter}
    {leaves' setters' : List Setter} (h : Mirrors values leaves setters)
    (h' : Mirrors others leaves' setters') :
    Mirrors (values ++ others) (leaves ++ leaves') (setters ++ setters') where
  compiled := by
    rw [List.filter_append, List.map_append]
    exact mapM_append_eq_ok h.compiled h'.compiled
  subperm := h.subperm.append h'.subperm
  perm hd := (h.perm (keysDiffer_append.mp hd).1).append (h'.perm (keysDiffer_append.mp hd).2)

theorem mirrors_scalar {value : Value} {node : TemplateNode} (hv : value.isScalar = true)
    (hn : ∃ setter, node = .leaf setter) (h : compile value = .ok node) :
    ∃ setters, Mirrors [value] node.leaves setters := by
  obtain ⟨setter, rfl⟩ := hn
  refine ⟨[setter], ?_, ?_, fun _ => ?_⟩
  · rw [List.filter_singleton, hv]
    exact mapM_cons_eq_ok_iff.mpr ⟨_, [], h, rfl, rfl⟩
  · rw [leaves]
  · rw [leaves]

theorem Mirrors.cons {values : List Value} {leaves setters : List Setter}
    (h : Mirrors values leaves setters) {value : Value} (hs : value.isScalar = false) :
    Mirrors (value :: values) leaves setters where
  compiled := by
    rw [List.filter_cons_of_neg (by simp [hs])]
    exact h.compiled
  subperm := h.subperm
  perm hd := h.perm (keysDiffer_cons.mp hd).2

theorem compileEntries_cons_eq_ok_iff {key value : Value} {entries : List (Value × Value)}
    {nodes : List (String × TemplateNode)} :
    compileEntries ((key, value) :: entries) = .ok nodes ↔ ∃ text node others,
      Document.keyText? key = some text ∧ compile value = .ok node ∧
        compileEntries entries = .ok others ∧ (text, node) :: others = nodes := by
  rw [compileEntries]
  cases Document.keyText? key with
  | none => simp
  | some text => simp [bind_eq_ok_iff, pure, Except.pure]

theorem keyTexts_eq_of_compileEntries {entries : List (Value × Value)}
    {nodes : List (String × TemplateNode)} (h : compileEntries entries = .ok nodes) :
    keyTexts entries = (keys nodes).map some := by
  induction entries generalizing nodes with
  | nil =>
    rw [compileEntries] at h
    obtain rfl := Except.ok.inj h
    rfl
  | cons entry entries ih =>
    obtain ⟨text, node, others, hkey, -, hothers, rfl⟩ := compileEntries_cons_eq_ok_iff.mp h
    rw [keyTexts, List.map_cons, hkey]
    exact congrArg _ (ih hothers)

/-- Entries that stand in two parts are compiled part by part. -/
theorem compileEntries_append_eq_ok_iff {before after : List (Value × Value)}
    {nodes : List (String × TemplateNode)} :
    compileEntries (before ++ after) = .ok nodes ↔ ∃ front back,
      compileEntries before = .ok front ∧ compileEntries after = .ok back ∧
        front ++ back = nodes := by
  induction before generalizing nodes with
  | nil => simp [compileEntries]
  | cons entry before ih =>
    rw [List.cons_append, compileEntries_cons_eq_ok_iff]
    constructor
    · rintro ⟨text, node, others, hkey, hnode, hothers, rfl⟩
      obtain ⟨front, back, hfront, hback, rfl⟩ := ih.mp hothers
      have hentry := compileEntries_cons_eq_ok_iff.mpr ⟨text, node, front, hkey, hnode, hfront, rfl⟩
      exact ⟨(text, node) :: front, back, hentry, hback, rfl⟩
    · rintro ⟨front, back, hfront, hback, rfl⟩
      obtain ⟨text, node, others, hkey, hnode, hothers, rfl⟩ :=
        compileEntries_cons_eq_ok_iff.mp hfront
      exact ⟨text, node, others ++ back, hkey, hnode, ih.mpr ⟨others, back, hothers, hback, rfl⟩, rfl⟩

theorem exists_of_compileEntries_append {before after : List (Value × Value)} {key value : Value}
    {nodes : List (String × TemplateNode)}
    (h : compileEntries (before ++ (key, value) :: after) = .ok nodes) :
    ∃ front text node back, nodes = front ++ (text, node) :: back ∧
      Document.keyText? key = some text ∧ compile value = .ok node ∧
        compileEntries after = .ok back := by
  obtain ⟨front, others, -, hothers, rfl⟩ := compileEntries_append_eq_ok_iff.mp h
  obtain ⟨text, node, back, hkey, hnode, hback, rfl⟩ := compileEntries_cons_eq_ok_iff.mp hothers
  exact ⟨front, text, node, back, rfl, hkey, hnode, hback⟩

theorem nodup_keyTexts_iff {entries : List (Value × Value)} {nodes : List (String × TemplateNode)}
    (h : compileEntries entries = .ok nodes) : (keyTexts entries).Nodup ↔ (keys nodes).Nodup := by
  rw [keyTexts_eq_of_compileEntries h]
  exact List.nodup_map_iff fun _ _ => Option.some.inj

/-- The entries of a mapping lose the setters of those that have the key of a later one. -/
theorem Mirrors.mapping {entries : List (Value × Value)} {nodes : List (String × TemplateNode)}
    {setters : List Setter}
    (h : Mirrors (followedOfEntries entries) (leavesOfChildren nodes) setters)
    (hnodes : compileEntries entries = .ok nodes) :
    Mirrors (.mapping entries :: followedOfEntries entries)
      (leavesOfChildren (sortChildren nodes)) setters where
  compiled := (h.cons rfl).compiled
  subperm := (leavesOfChildren_subperm (sortChildren_subperm nodes)).trans h.subperm
  perm hd := by
    obtain ⟨hkeys, hrest⟩ := keysDiffer_cons.mp hd
    have hnodup : (keys nodes).Nodup :=
      (nodup_keyTexts_iff hnodes).mp (hkeys entries (List.mem_singleton_self entries))
    exact (leavesOfChildren_perm (sortChildren_perm hnodup)).trans (h.perm hrest)

-- The induction is on the template, together with the entries of a mapping.
mutual

theorem mirrors_compile (value : Value) (node : TemplateNode) (h : compile value = .ok node) :
    ∃ setters, Mirrors value.followed node.leaves setters := by
  cases value with
  | null =>
    rw [compile] at h
    cases h
  | boolean b => exact mirrors_scalar rfl (exists_leaf_of_compileLeaf h) h
  | integer n => exact mirrors_scalar rfl (exists_leaf_of_compileLeaf h) h
  | float x => exact mirrors_scalar rfl (exists_leaf_of_compileLeaf h) h
  | string s => exact mirrors_scalar rfl (exists_leaf_of_compileLeaf h) h
  | sequence items =>
    cases items with
    | nil =>
      rw [compile] at h
      obtain rfl := Except.ok.inj h
      rw [followed, leaves]
      exact ⟨[], rfl, .refl _, fun _ => .refl _⟩
    | cons first items =>
      rw [compile] at h
      obtain ⟨element, helement, rfl⟩ := map_eq_ok_iff.mp h
      obtain ⟨setters, hm⟩ := mirrors_compile first element helement
      rw [followed, leaves]
      exact ⟨setters, hm.cons rfl⟩
  | mapping entries =>
    rw [compile] at h
    obtain ⟨nodes, hnodes, rfl⟩ := map_eq_ok_iff.mp h
    obtain ⟨setters, hm⟩ := mirrors_compileEntries entries nodes hnodes
    rw [followed, leaves]
    exact ⟨setters, hm.mapping hnodes⟩
  | tagged tag value =>
    rw [compile] at h
    rw [followed]
    exact mirrors_compile value node h

theorem mirrors_compileEntries (entries : List (Value × Value))
    (nodes : List (String × TemplateNode)) (h : compileEntries entries = .ok nodes) :
    ∃ setters, Mirrors (followedOfEntries entries) (leavesOfChildren nodes) setters := by
  cases entries with
  | nil =>
    rw [compileEntries] at h
    obtain rfl := Except.ok.inj h
    rw [followedOfEntries, leavesOfChildren]
    exact ⟨[], rfl, .refl _, fun _ => .refl _⟩
  | cons entry entries =>
    obtain ⟨key, value⟩ := entry
    obtain ⟨text, node, others, -, hnode, hothers, rfl⟩ := compileEntries_cons_eq_ok_iff.mp h
    obtain ⟨setters, hm⟩ := mirrors_compile value node hnode
    obtain ⟨setters', hm'⟩ := mirrors_compileEntries entries others hothers
    rw [followedOfEntries, leavesOfChildren]
    exact ⟨setters ++ setters', hm.append hm'⟩

end

theorem compile_untagged (value : Value) : compile value.untagged = compile value := by
  cases value with
  | tagged tag value =>
    rw [untagged, compile]
    exact compile_untagged value
  | _ => rfl

/-- A template compiles into a tree of its shape. Its scalars have a setter each, and all of them are
leaves of the tree if in every mapping the texts of the keys are different. A mapping becomes a node
with a child for each entry just if the texts of its own keys are different, and under the text of a
key stands what is compiled from the last entry that has it. -/
theorem compile_mirrors {value : Value} {node : TemplateNode} (h : compile value = .ok node) :
    (∃ setters, value.leaves.mapM compile = .ok (setters.map leaf) ∧ node.leaves.Subperm setters ∧
      (KeysDiffer value.followed →
        node.leaves.Perm setters ∧ node.leaves.length = value.leaves.length)) ∧
    ∀ entries, value.untagged = .mapping entries → ∃ children, node = .map children ∧
      (children.length = entries.length ↔ (keyTexts entries).Nodup) ∧
      ∀ before key entry after, entries = before ++ (key, entry) :: after →
        ∃ text child, Document.keyText? key = some text ∧ compile entry = .ok child ∧
          (some text ∉ keyTexts after → children.lookup text = some child) := by
  constructor
  · obtain ⟨setters, hm⟩ := mirrors_compile value node h
    refine ⟨setters, hm.compiled, hm.subperm, ?_⟩
    intro hkeys
    have hperm := hm.perm hkeys
    refine ⟨hperm, ?_⟩
    rw [hperm.length_eq, ← List.length_map leaf]
    exact length_of_mapM_eq_ok hm.compiled
  · intro entries hentries
    rw [← compile_untagged, hentries, compile] at h
    obtain ⟨nodes, hnodes, rfl⟩ := map_eq_ok_iff.mp h
    refine ⟨sortChildren nodes, rfl, ?_, ?_⟩
    · have hlen : nodes.length = entries.length := by
        simpa [keyTexts, keys] using
          (congrArg List.length (keyTexts_eq_of_compileEntries hnodes)).symm
      rw [← hlen, length_sortChildren_eq_iff, nodup_keyTexts_iff hnodes]
    · rintro before key entry after rfl
      obtain ⟨front, text, child, back, rfl, hkey, hchild, hback⟩ :=
        exists_of_compileEntries_append hnodes
      refine ⟨text, child, hkey, hchild, ?_⟩
      intro hlast
      refine lookup_sortChildren_of_last ?_ front child
      intro hmem
      rw [keyTexts_eq_of_compileEntries hback] at hlast
      exact hlast (List.mem_map_of_mem hmem)

/-- A host under a number, and the names of queues, of which the first item alone is read. -/
theorem compile_mirrors_queues :
    let queue : Value := .mapping [(.boolean true, .string "all.kafka.queue.name")]
    let value : Value := .tagged "own" (.mapping [(.integer 1, .string "all.kafka.host"),
      (.string "queues", .sequence [queue, .null])])
    ∃ node, compile value = .ok node ∧ KeysDiffer value.followed ∧
      node.leaves.length = 2 ∧ ∃ children, node = .map children ∧ children.length = 2 ∧
        ∃ child, compile (.string "all.kafka.host") = .ok child ∧
          children.lookup "1" = some child := by
  intro queue value
  have h : compile value = .ok _ := rfl
  have hkeys : KeysDiffer value.followed := by decide
  obtain ⟨⟨setters, -, -, hall⟩, hmapping⟩ := compile_mirrors h
  obtain ⟨children, hnode, hlength, hentries⟩ := hmapping _ rfl
  obtain ⟨text, child, htext, hchild, hlookup⟩ := hentries [] _ _ _ rfl
  obtain rfl : "1" = text := Option.some.inj htext
  exact ⟨_, h, hkeys, (hall hkeys).2, children, hnode, hlength.mpr (by decide), child, hchild,
    hlookup (by decide)⟩

/-- Two keys that are different values with one text: a leaf is lost, and a child. -/
theorem compile_repeated_key :
    let text := "1: \x7b\x7b all.kafka.host \x7d\x7d\n'1': \x7b\x7b all.kafka.name \x7d\x7d\n"
    let entries : List (Value × Value) := [(.integer 1, .string "\x7b\x7b all.kafka.host \x7d\x7d"),
      (.string "1", .string "\x7b\x7b all.kafka.name \x7d\x7d")]
    (∃ children, compile (.mapping entries) = .ok (.map children) ∧ children.length = 1 ∧
      (TemplateNode.map children).leaves.length = 1 ∧ (Value.mapping entries).leaves.length = 2) ∧
        (Template.ofText text).toOption.map Template.leafCount = some 1 :=
  ⟨⟨_, rfl, rfl, rfl, rfl⟩, by decide +kernel⟩

end TemplateNode
end ServiceAtlas
