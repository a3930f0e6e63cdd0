import ServiceAtlas.Proofs.Extract.Script
import ServiceAtlas.Proofs.Template.Children

/-!
# Targets of setters and nodes

Which fields a walk may write to is known from the template alone: they are those that the setters
under its nodes name, for a walk brings texts to no other setters.
-/
namespace ServiceAtlas

namespace Change

/-- A change writes to one of some targets, or is a warning. -/
def IsFor (ts : List Target) : Change → Prop
  | put w => ∃ t ∈ ts, t.address = w.address
  | warn _ => True
  | release => False

theorem IsFor.mono {ts us : List Target} (h : ts ⊆ us) {c : Change} (hc : c.IsFor ts) :
    c.IsFor us := by
  cases c with
  | put w =>
    obtain ⟨t, ht, hw⟩ := hc
    exact ⟨t, h ht, hw⟩
  | warn message => trivial
  | release => exact hc

end Change

/-- The fields that an action writes to. -/
def Action.targets : Action → List Target
  | direct t => [t]
  | preset t _ => [t]
  | conditional _ t _ => [t]
  | parse ts _ => ts

def Setter.targets (s : Setter) : List Target := s.actions.flatMap Action.targets

/-- The fields that the setters of a node write to. -/
def TemplateNode.targets (node : TemplateNode) : List Target := node.leaves.flatMap Setter.targets

theorem Target.isFor_of_mem_script {t : Target} {text : String} {c : Change}
    (h : c ∈ (t.script text).changes) : c.IsFor [t] := by
  unfold script at h
  cases hw : t.write? text with
  | none =>
    rw [hw] at h
    exact absurd h List.not_mem_nil
  | some w =>
    rw [hw] at h
    obtain ⟨v, -, rfl⟩ := Option.map_eq_some_iff.mp hw
    obtain rfl := List.mem_singleton.mp h
    exact ⟨t, List.mem_singleton_self t, rfl⟩

namespace Action

theorem isFor_of_mem_scriptOfParts {all : List String} {ts : List Target} {parts : List String}
    {c : Change} (h : c ∈ (scriptOfParts all ts parts).changes) : c.IsFor ts := by
  induction parts generalizing ts with
  | nil =>
    rw [scriptOfParts] at h
    exact absurd h List.not_mem_nil
  | cons part parts ih =>
    cases ts with
    | nil => exact absurd h List.not_mem_nil
    | cons t ts =>
      rcases Script.mem_changes_andThen h with h | h
      · exact (Target.isFor_of_mem_script h).mono (by simp)
      · exact (ih h).mono (List.subset_cons_self t ts)

theorem isFor_of_mem_script {value : String} {a : Action} {c : Change}
    (h : c ∈ (a.script value).changes) : c.IsFor a.targets := by
  cases a with
  | direct t => exact Target.isFor_of_mem_script h
  | preset t literal => exact Target.isFor_of_mem_script h
  | conditional expected t literal =>
    rw [script] at h
    split at h
    · exact absurd h List.not_mem_nil
    · split at h
      · exact Target.isFor_of_mem_script h
      · exact absurd h List.not_mem_nil
  | parse ts separators =>
    rcases Script.mem_changes_andThen h with h | h
    · cases hm : (Split.ofValue separators value.toList).missing with
      | none =>
        rw [hm] at h
        exact absurd h List.not_mem_nil
      | some separator =>
        rw [hm] at h
        obtain rfl := List.mem_singleton.mp h
        trivial
    · exact isFor_of_mem_scriptOfParts h

end Action

theorem Setter.isFor_of_mem_script {s : Setter} {value : String} {c : Change}
    (h : c ∈ (s.script value).changes) : c.IsFor s.targets := by
  obtain ⟨script, hs, hc⟩ := Script.exists_mem_of_mem_changes_all h
  obtain ⟨a, ha, rfl⟩ := List.mem_map.mp hs
  exact (Action.isFor_of_mem_script hc).mono fun t ht => List.mem_flatMap.mpr ⟨a, ha, ht⟩

namespace TemplateNode

theorem leaves_subset_of_lookup {children : List (String × TemplateNode)} {key : String}
    {node : TemplateNode} (h : children.lookup key = some node) :
    node.leaves ⊆ leavesOfChildren children := by
  obtain ⟨before, after, hchildren, -⟩ := List.lookup_eq_some_iff.mp h
  rw [leavesOfChildren_eq_flatMap, hchildren]
  intro s hs
  exact List.mem_flatMap.mpr ⟨(key, node), by simp, hs⟩

theorem leaves_subset_of_match? {children : List (String × TemplateNode)} {key : String}
    {node : TemplateNode} (h : match? children key = some node) :
    node.leaves ⊆ leavesOfChildren children := by
  rcases Option.or_eq_some_iff.mp h with h | ⟨-, h⟩
  · exact leaves_subset_of_lookup h
  · exact leaves_subset_of_lookup h

theorem leaves_subset_of_arrayElement? {node element : TemplateNode}
    (h : node.arrayElement? = some (some element)) : element.leaves ⊆ node.leaves := by
  cases node with
  | leaf setter => cases h
  | array inner =>
    obtain rfl := Option.some.inj h
    rw [leaves]
    exact List.Subset.refl _
  | map children =>
    rw [arrayElement?] at h
    rw [leaves]
    split at h
    · cases h
    · next inner hl =>
      obtain rfl := Option.some.inj h
      have hsub := leaves_subset_of_lookup hl
      rw [leaves] at hsub
      exact hsub
    · next hl =>
      obtain rfl := Option.some.inj (Option.some.inj h)
      exact leaves_subset_of_lookup hl

-- The induction is on the document, together with its entries and its items.
mutual

/-- A walk brings texts to setters of the template only. -/
theorem setter_mem_leaves (key : String) (node : TemplateNode) :
    (value : Document) → ∀ e, .event e ∈ visits key node value → e.setter ∈ node.leaves
  | .map entries => by
    intro e he
    cases node with
    | map children =>
      rw [visits] at he
      rw [leaves]
      exact setter_mem_leavesOfChildren children entries e he
    | array element => simp [visits] at he
    | leaf setter => simp [visits] at he
  | .array items => by
    intro e he
    have hitems (element : TemplateNode) := setter_mem_leaves_of_items key element 0 items e
    rw [visits_array] at he
    cases hn : node.arrayElement? with
    | none => simp [hn] at he
    | some element =>
      cases element with
      | none => simp [hn] at he
      | some element =>
        rw [hn] at he
        exact leaves_subset_of_arrayElement? hn (hitems element he)
  | .scalar scalar => by
    intro e he
    cases node with
    | leaf setter =>
      obtain rfl : e = ⟨setter, scalar.text⟩ := by simpa [visits] using he
      simp [leaves]
    | map children => simp [visits] at he
    | array element => simp [visits] at he
  | .null => by
    intro e he
    simp [visits] at he

theorem setter_mem_leavesOfChildren (children : List (String × TemplateNode)) :
    (entries : List (String × Document)) → ∀ e, .event e ∈ visitsOfEntries children entries →
      e.setter ∈ leavesOfChildren children
  | [] => by
    intro e he
    simp [visitsOfEntries] at he
  | (key, value) :: entries => by
    intro e he
    have hvalue (node : TemplateNode) := setter_mem_leaves key node value e
    rw [visitsOfEntries_cons] at he
    rcases List.mem_append.mp he with he | he
    · cases hn : match? children key with
      | some node =>
        rw [hn] at he
        exact leaves_subset_of_match? hn (hvalue node he)
      | none => simp [hn] at he
    · exact setter_mem_leavesOfChildren children entries e he

theorem setter_mem_leaves_of_items (key : String) (element : TemplateNode) (index : Nat) :
    (items : List Document) → ∀ e, .event e ∈ visitsOfItems key element index items →
      e.setter ∈ element.leaves
  | [] => by
    intro e he
    simp [visitsOfItems] at he
  | item :: items => by
    intro e he
    rw [visitsOfItems] at he
    rcases List.mem_append.mp he with he | he
    · exact setter_mem_leaves _ element item e he
    · exact setter_mem_leaves_of_items key element (index + 1) items e he

end

end TemplateNode

end ServiceAtlas
