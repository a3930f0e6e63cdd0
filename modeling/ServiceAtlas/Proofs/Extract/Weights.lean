import ServiceAtlas.Proofs.Extract.Alike
import ServiceAtlas.Proofs.Leaf.Pipeline
import ServiceAtlas.Proofs.Template.Faults

/-!
# Leaves that can replace each other

Two leaves with the same actions can stand in one place of a template: what is extracted with it is
the same. So it is with leaves of the same segments but for those that declare a weight.
-/
namespace ServiceAtlas

open Yaml (Value)

/-- The second template has a leaf in one place where the first has another. -/
inductive Yaml.Value.LeafReplaced (leaf leaf' : String) : Value → Value → Prop
  | leaf : LeafReplaced leaf leaf' (.string leaf) (.string leaf')
  | first {first first' : Value} (h : LeafReplaced leaf leaf' first first') (items : List Value) :
    LeafReplaced leaf leaf' (.sequence (first :: items)) (.sequence (first' :: items))
  | entry {value value' : Value} (h : LeafReplaced leaf leaf' value value')
    (before : List (Value × Value)) (key : Value) (after : List (Value × Value)) :
    LeafReplaced leaf leaf' (.mapping (before ++ (key, value) :: after))
      (.mapping (before ++ (key, value') :: after))
  | tagged {value value' : Value} (h : LeafReplaced leaf leaf' value value') (tag : String) :
    LeafReplaced leaf leaf' (.tagged tag value) (.tagged tag value')

namespace TemplateNode

/-- A child is replaced in its place. -/
theorem compileEntries_replace {before after : List (Value × Value)} {key value value' : Value}
    {nodes : List (String × TemplateNode)}
    (h : compileEntries (before ++ (key, value) :: after) = .ok nodes) :
    ∃ front text node back, compile value = .ok node ∧ nodes = front ++ (text, node) :: back ∧
      ∀ node', compile value' = .ok node' →
        compileEntries (before ++ (key, value') :: after) = .ok (front ++ (text, node') :: back) := by
  obtain ⟨front, others, hfront, hothers, rfl⟩ := compileEntries_append_eq_ok_iff.mp h
  obtain ⟨text, node, back, hkey, hnode, hback, rfl⟩ := compileEntries_cons_eq_ok_iff.mp hothers
  refine ⟨front, text, node, back, hnode, rfl, ?_⟩
  intro node' hnode'
  have hothers' := compileEntries_cons_eq_ok_iff.mpr ⟨text, node', back, hkey, hnode', hback, rfl⟩
  exact compileEntries_append_eq_ok_iff.mpr ⟨front, _, hfront, hothers', rfl⟩

theorem Alike.lookup_sortChildren {node node' : TemplateNode} (h : Alike node node')
    (front : List (String × TemplateNode)) (text : String) (back : List (String × TemplateNode))
    (key : String) :
    Option.Rel Alike ((sortChildren (front ++ (text, node) :: back)).lookup key)
      ((sortChildren (front ++ (text, node') :: back)).lookup key) := by
  simp only [TemplateNode.lookup_sortChildren, List.reverse_append, List.reverse_cons,
    List.append_assoc, List.singleton_append]
  exact h.lookup_replaced back.reverse text front.reverse key

variable {leaf leaf' : String}

/-- A template compiles with the other leaf too, to a node that no document tells apart. -/
theorem exists_alike_of_leafReplaced
    (hleaf : ∀ s, Setter.compile leaf = .ok s →
      ∃ s', Setter.compile leaf' = .ok s' ∧ s'.actions = s.actions)
    {value value' : Value} (h : value.LeafReplaced leaf leaf' value') {node : TemplateNode}
    (hnode : compile value = .ok node) : ∃ node', compile value' = .ok node' ∧ Alike node node' := by
  induction h generalizing node with
  | leaf =>
    rw [compile, compileLeaf] at hnode
    cases hs : Setter.compile leaf with
    | error cause =>
      rw [hs] at hnode
      cases hnode
    | ok s =>
      rw [hs] at hnode
      obtain rfl := Except.ok.inj hnode
      obtain ⟨s', hs', hactions⟩ := hleaf s hs
      refine ⟨.leaf s', by rw [compile, compileLeaf, hs'], .leaf ?_⟩
      intro value
      rw [Setter.apply, Setter.apply, hactions]
  | first h items ih =>
    rw [compile] at hnode
    obtain ⟨element, helement, rfl⟩ := map_eq_ok_iff.mp hnode
    obtain ⟨element', helement', halike⟩ := ih helement
    refine ⟨.array (some element'), ?_, .array (.some halike)⟩
    rw [compile, helement']
    rfl
  | entry h before key after ih =>
    rw [compile] at hnode
    obtain ⟨nodes, hnodes, rfl⟩ := map_eq_ok_iff.mp hnode
    obtain ⟨front, text, child, back, hchild, rfl, hreplace⟩ := compileEntries_replace hnodes
    obtain ⟨child', hchild', halike⟩ := ih hchild
    have hlookup := halike.lookup_sortChildren front text back
    refine ⟨_, ?_, .map (Alike.match? hlookup) (hlookup arrayKey)⟩
    rw [compile, hreplace child' hchild']
    rfl
  | tagged h tag ih => exact ih hnode

end TemplateNode

namespace Template

variable {leaf leaf' : String}

/-- A leaf can be replaced by one with the same actions: every document is met in the same way. -/
theorem exists_ofValue_of_leafReplaced
    (hleaf : ∀ s, Setter.compile leaf = .ok s →
      ∃ s', Setter.compile leaf' = .ok s' ∧ s'.actions = s.actions)
    {value value' : Value} (h : value.LeafReplaced leaf leaf' value') {t : Template}
    (ht : ofValue value = .ok t) :
    ∃ t', ofValue value' = .ok t' ∧ ∀ document, t'.extractInto document = t.extractInto document := by
  obtain ⟨node', hnode', halike⟩ :=
    TemplateNode.exists_alike_of_leafReplaced hleaf h (ofValue_eq_ok_iff.mp ht)
  cases node' with
  | map root =>
    refine ⟨⟨root⟩, ofValue_eq_ok_iff.mpr hnode', ?_⟩
    intro document
    exact (@extractInto_eq_of_alike t ⟨root⟩ halike document).symm
  | array element => cases halike.kind_eq
  | leaf setter => cases halike.kind_eq

end Template

namespace Setter

open Segment (AreSegments SameButWeights pipeline declared?)

/-- A leaf compiles just when each of its segments does as a leaf of its own, and otherwise fails
with the error of the first that does not. It then does what the single leaves do one after the
other, as long as none of them fails, and has the weight that is declared last. Segments that declare
a weight can be put in and left out: the error is the same, and so is all that is extracted with a
template that has the leaf in some place. -/
theorem compile_pipeline_segmentwise {texts : List String} (h : AreSegments texts) :
    ((∃ s, compile (pipeline texts) = .ok s) ↔
      ∀ text ∈ texts, ∃ s, compile (pipeline [text]) = .ok s) ∧
    (∀ e, compile (pipeline texts) = .error e ↔
      ∃ before text after, texts = before ++ text :: after ∧
        compile (pipeline [text]) = .error e ∧
          ∀ other ∈ before, ∃ s, compile (pipeline [other]) = .ok s) ∧
    (∀ s, compile (pipeline texts) = .ok s →
      s.weight = (texts.filterMap declared?).getLastD 0 ∧
        ∃ singles, (texts.mapM fun text => compile (pipeline [text])) = .ok singles ∧
          ∀ value, s.apply value = singles.forM fun single => single.apply value) ∧
    ∀ texts', AreSegments texts' → SameButWeights texts texts' →
      (∀ e, compile (pipeline texts) = .error e ↔ compile (pipeline texts') = .error e) ∧
      ∀ (value value' : Value) t, value.LeafReplaced (pipeline texts) (pipeline texts') value' →
        Template.ofValue value = .ok t → ∃ t', Template.ofValue value' = .ok t' ∧
          ∀ document, t'.extractInto document = t.extractInto document := by
  refine ⟨?_, ?_, ?_, ?_⟩
  · rw [← error?_eq_none_iff, error?_compile_pipeline h, List.findSome?_eq_none_iff]
    simp only [error?_eq_none_iff]
  · intro e
    rw [← error?_eq_some_iff, error?_compile_pipeline h, List.findSome?_eq_some_iff]
    simp only [error?_eq_none_iff, error?_eq_some_iff]
  · intro s hs
    obtain ⟨hweight, singles, hsingles, hactions⟩ := exists_singles_of_compile h hs
    refine ⟨hweight, singles, hsingles, ?_⟩
    intro value
    rw [apply, hactions, forM_flatten]
  · intro texts' h' hsame
    constructor
    · intro e
      rw [← error?_eq_some_iff, ← error?_eq_some_iff, error?_compile_of_sameButWeights h h' hsame]
    · intro value value' t hreplaced ht
      refine Template.exists_ofValue_of_leafReplaced ?_ hreplaced ht
      intro s hs
      exact exists_compile_of_sameButWeights h h' hsame hs

/-- The host of a broker with two weights and without, and a leaf whose third segment is refused,
before the weight that cannot be read. -/
theorem compile_pipeline_segmentwise_host :
    let texts := ["weight 3", "all.kafka.host", "weight 7"]
    let refused := ["weight 3", "all.kafka.host = \x7b\x7b a \x7d\x7d", "", "weight high"]
    let template (leaf : String) : Value := .mapping [(.string "host", .string leaf)]
    AreSegments texts ∧ AreSegments refused ∧ SameButWeights texts ["all.kafka.host"] ∧
      (∃ s, compile (pipeline texts) = .ok s ∧ s.weight = 7) ∧
      compile (pipeline refused) = .error (.invalidPath "") ∧
      ∃ t t', Template.ofValue (template (pipeline texts)) = .ok t ∧
        Template.ofValue (template (pipeline ["all.kafka.host"])) = .ok t' ∧
          ∀ document, t'.extractInto document = t.extractInto document := by
  intro texts refused template
  have htexts : AreSegments texts := ⟨by decide, by decide⟩
  have hrefused : AreSegments refused := ⟨by decide, by decide⟩
  have hsame : SameButWeights texts ["all.kafka.host"] := by
    decide +kernel
  obtain ⟨s, hs⟩ : ∃ s, compile (pipeline texts) = .ok s := error?_eq_none_iff.mp (by decide +kernel)
  obtain ⟨t, ht⟩ : ∃ t, Template.ofValue (template (pipeline texts)) = .ok t :=
    error?_eq_none_iff.mp (by decide +kernel)
  have hsound : ∀ other ∈ refused.take 2, error? (compile (pipeline [other])) = none := by
    decide +kernel
  obtain ⟨-, -, hweight, hreplace⟩ := compile_pipeline_segmentwise htexts
  obtain ⟨-, hextract⟩ := hreplace _ ⟨by decide, by decide⟩ hsame
  obtain ⟨t', ht', hdocument⟩ := hextract _ _ t (.entry .leaf [] (.string "host") []) ht
  refine ⟨htexts, hrefused, hsame, ⟨s, hs, (hweight s hs).1.trans (by decide +kernel)⟩, ?_,
    t, t', ht, ht', hdocument⟩
  refine ((compile_pipeline_segmentwise hrefused).2.1 _).mpr
    ⟨refused.take 2, "", ["weight high"], rfl, eq_error_of_error? (by decide +kernel), ?_⟩
  intro other hother
  exact error?_eq_none_iff.mp (hsound other hother)

end Setter
end ServiceAtlas
