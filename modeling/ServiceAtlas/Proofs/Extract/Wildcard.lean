import ServiceAtlas.Proofs.Extract.Alike
import ServiceAtlas.Proofs.Template.Children

/-!
# Keys that a wildcard stands for

A wildcard stands for each key of its level that has no node of its own. To spell such a key out,
with the node of the wildcard, changes no walk, wherever in the template the level is. Only the key
of array elements cannot be spelled out so: its presence opens the level to arrays.
-/
namespace ServiceAtlas
namespace TemplateNode

variable {node node' : TemplateNode} {children : List (String × TemplateNode)} {key : String}

/-- The second node has, at one level at any depth, the node of the wildcard also under a key of its
own, which the first one leaves to the wildcard. -/
inductive SpelledOut : TemplateNode → TemplateNode → Prop
  | here {children : List (String × TemplateNode)} {node : TemplateNode} {key : String}
    (hwildcard : children.lookup wildcard = some node) (hkey : children.lookup key = none)
    (harray : key ≠ arrayKey) : SpelledOut (.map children) (.map (insertChild key node children))
  | child {node node' : TemplateNode} (h : SpelledOut node node')
    (before : List (String × TemplateNode)) (key : String) (after : List (String × TemplateNode)) :
    SpelledOut (.map (before ++ (key, node) :: after)) (.map (before ++ (key, node') :: after))
  | element {node node' : TemplateNode} (h : SpelledOut node node') :
    SpelledOut (.array (some node)) (.array (some node'))

theorem match?_of_lookup (h : children.lookup key = some node) :
    match? children key = some node := by
  rw [match?, h, Option.some_or]

/-- Each key matches the node that it matched before. -/
theorem match?_insertChild (hwildcard : children.lookup wildcard = some node)
    (hkey : children.lookup key = none) (other : String) :
    match? (insertChild key node children) other = match? children other := by
  have hne : wildcard ≠ key := by
    rintro rfl
    cases hwildcard.symm.trans hkey
  rw [match?, match?, lookup_insertChild, lookup_insertChild, if_neg hne]
  split
  · next heq => rw [heq, hkey, hwildcard, Option.some_or, Option.none_or]
  · rfl

theorem SpelledOut.alike (h : SpelledOut node node') : Alike node node' := by
  induction h with
  | here hwildcard hkey harray =>
    refine .map (fun other => ?_) ?_
    · rw [match?_insertChild hwildcard hkey]
      exact Alike.refl_option _
    · rw [lookup_insertChild, if_neg (Ne.symm harray)]
      exact Alike.refl_option _
  | child h before key after ih =>
    have hlookup := ih.lookup_replaced before key after
    exact .map (Alike.match? hlookup) (hlookup arrayKey)
  | element h ih => exact .array (.some ih)

/-- Entries whose keys have nodes of their own do not ask what stands under the wildcard. -/
theorem walk_insertChild_wildcard {entries : List (String × Document)}
    (h : ∀ entry ∈ entries, entry.1 ≠ wildcard ∧ (children.lookup entry.1).isSome)
    (wild : TemplateNode) :
    walk (insertChild wildcard wild children) entries = walk children entries := by
  induction entries with
  | nil => rfl
  | cons entry entries ih =>
    obtain ⟨key, value⟩ := entry
    obtain ⟨⟨hne, hsome⟩, hrest⟩ := List.forall_mem_cons.mp h
    obtain ⟨own, hown⟩ := Option.isSome_iff_exists.mp hsome
    have hlookup : (insertChild wildcard wild children).lookup key = some own := by
      rw [lookup_insertChild, if_neg hne, hown]
    rw [walk, walk, match?_of_lookup hlookup, match?_of_lookup hown, ih hrest]

end TemplateNode

namespace Template

open TemplateNode

/-- A template in which a key is spelled out does with every document and every record what it did
when the key was left to the wildcard. The two never add up: where each key has a node of its own,
these nodes alone decide, and any other node can be put under the wildcard. -/
theorem runOn_extractInto_spelledOut :
    (∀ t t' : Template, SpelledOut (.map t.root) (.map t'.root) → ∀ document r,
      (t'.extractInto document).runOn r = (t.extractInto document).runOn r) ∧
      ∀ (children : List (String × TemplateNode)) (wild : TemplateNode)
        (entries : List (String × Document)),
        (∀ entry ∈ entries, entry.1 ≠ wildcard ∧ (children.lookup entry.1).isSome) → ∀ r,
          (walk (insertChild wildcard wild children) entries).runOn r =
            (walk children entries).runOn r := by
  constructor
  · intro t t' h document r
    rw [extractInto_eq_of_alike h.alike document]
  · intro children wild entries h r
    rw [walk_insertChild_wildcard h wild]

/-- The brokers of a list of clusters, at a level under a wildcard inside an array: the key of the
broker is spelled out. The host has had a node of its own from the start. -/
theorem runOn_extractInto_spelledOut_brokers :
    let name : TemplateNode :=
      .leaf ⟨0, [.direct ⟨"all.kafka.name", .beside (.beside (.scalar .here))⟩]⟩
    let host : TemplateNode :=
      .leaf ⟨0, [.direct ⟨"all.kafka.host", .beside (.beside (.scalar (.there .here)))⟩]⟩
    let clusters (level : List (String × TemplateNode)) : Template :=
      ⟨[("clusters", .array (some (.map [("*", .map level)])))]⟩
    let t := clusters [("*", name), ("host", host)]
    let t' := clusters [("*", name), ("broker", name), ("host", host)]
    let hosted (text : String) := [("host", Document.scalar (.string text))]
    let cluster (text : String) : Document := .map [("eu", .map
      (hosted text ++ [("broker", .scalar (.string "events")), ("zone", .null)]))]
    let document : Document := .map [("clusters", .array [cluster "kafka1", cluster "kafka2"])]
    SpelledOut (.map t.root) (.map t'.root) ∧
      (t'.extractInto document).runOn .empty = (t.extractInto document).runOn .empty ∧
      (∀ entry ∈ hosted "kafka1", entry.1 ≠ wildcard ∧ ([("host", host)].lookup entry.1).isSome) ∧
        (walk (insertChild wildcard name [("host", host)]) (hosted "kafka1")).runOn .empty =
          (walk [("host", host)] (hosted "kafka1")).runOn .empty := by
  intro name host clusters t t' hosted cluster document
  have hlevel := @SpelledOut.here [("*", name), ("host", host)] name "broker" rfl rfl (by decide)
  have hspelled : SpelledOut (.map t.root) (.map t'.root) :=
    .child (.element (.child hlevel [] "*" [])) [] "clusters" []
  have hown : ∀ entry ∈ hosted "kafka1",
      entry.1 ≠ wildcard ∧ ([("host", host)].lookup entry.1).isSome :=
    List.forall_mem_singleton.mpr ⟨by decide, rfl⟩
  exact ⟨hspelled, runOn_extractInto_spelledOut.1 t t' hspelled document .empty, hown,
    runOn_extractInto_spelledOut.2 _ name _ hown .empty⟩

end Template
end ServiceAtlas
