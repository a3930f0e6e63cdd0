import ServiceAtlas.Leaf.Setter
import ServiceAtlas.Proofs.Results

/-!
# Compiled leaves

A leaf compiles when each of its segments reads and each path that they name resolves. Its setter
then has the actions of the segments, one behind the other, and the weight that was declared last.
-/
namespace ServiceAtlas

namespace Segment

/-- The paths that a segment names. -/
def paths : Segment → List (List Char)
  | weight _ => []
  | conditional _ path _ => [path]
  | parse pattern => pattern.paths
  | preset path _ => [path]
  | direct path => [path]

/-- The action of a segment, once its paths are resolved. A weight has none. -/
def actions : Segment → Except ExtractError (List Action)
  | weight _ => .ok []
  | conditional expected path literal =>
    (Setter.resolve path).map fun t => [.conditional expected t (String.ofList literal)]
  | parse pattern =>
    (pattern.paths.mapM Setter.resolve).map fun ts => [.parse ts pattern.separators]
  | preset path literal => (Setter.resolve path).map fun t => [.preset t (String.ofList literal)]
  | direct path => (Setter.resolve path).map fun t => [.direct t]

/-- The weight behind a segment, which is the one before it unless the segment declares another. -/
def weightAfter (before : Int) : Segment → Int
  | weight n => n
  | conditional .. => before
  | parse _ => before
  | preset .. => before
  | direct _ => before

/-- The weight that a segment declares. -/
def weight? : Segment → Option Int
  | weight n => some n
  | conditional .. => none
  | parse _ => none
  | preset .. => none
  | direct _ => none

/-- The segments of a leaf, if all of them read. -/
def readAll (leaf : String) : Except ExtractError (List Segment) := (texts leaf.toList).mapM read

/-- A segment has its action when its paths resolve, whatever else stands in it. -/
theorem exists_actions_eq_ok_iff {seg : Segment} :
    (∃ as, seg.actions = .ok as) ↔ ∀ path ∈ seg.paths, ∃ t, Setter.resolve path = .ok t := by
  cases seg with
  | weight n => simp [actions, paths]
  | conditional expected path literal => simp [actions, paths, exists_map_eq_ok_iff]
  | preset path literal => simp [actions, paths, exists_map_eq_ok_iff]
  | direct path => simp [actions, paths, exists_map_eq_ok_iff]
  | parse pattern => rw [actions, paths, exists_map_eq_ok_iff, exists_mapM_eq_ok_iff]

theorem exists_mapM_actions_eq_ok_iff {segments : List Segment} :
    (∃ actions, segments.mapM Segment.actions = .ok actions) ↔
      ∀ seg ∈ segments, ∀ path ∈ seg.paths, ∃ t, Setter.resolve path = .ok t := by
  rw [exists_mapM_eq_ok_iff]
  exact forall₂_congr fun seg _ => exists_actions_eq_ok_iff

/-- A segment has one action unless it declares a weight. -/
theorem length_of_actions {seg : Segment} {as : List Action} (h : seg.actions = .ok as) :
    as.length = if seg.weight?.isNone then 1 else 0 := by
  have hone {β : Type} {x : Except ExtractError β} {f : β → Action}
      (h : (x.map fun b => [f b]) = .ok as) : as.length = 1 := by
    obtain ⟨b, -, rfl⟩ := map_eq_ok_iff.mp h
    rfl
  cases seg with
  | weight n =>
    obtain rfl := Except.ok.inj h
    rfl
  | conditional expected path literal => exact hone h
  | parse pattern => exact hone h
  | preset path literal => exact hone h
  | direct path => exact hone h

theorem weightAfter_eq (before : Int) (seg : Segment) :
    seg.weightAfter before = seg.weight?.getD before := by
  cases seg <;> rfl

/-- The weight that is declared last counts. -/
theorem foldl_weightAfter (segments : List Segment) (before : Int) :
    segments.foldl weightAfter before = (segments.filterMap weight?).getLastD before := by
  induction segments generalizing before with
  | nil => rfl
  | cons seg segments ih =>
    rw [List.foldl_cons, ih, List.filterMap_cons, weightAfter_eq]
    cases seg.weight? with
    | none => rfl
    | some n => exact (List.getLastD_cons ..).symm

end Segment

namespace Setter

theorem add_eq (s : Setter) (seg : Segment) :
    s.add seg = seg.actions.map fun as => ⟨seg.weightAfter s.weight, s.actions ++ as⟩ := by
  cases seg with
  | weight n => simp [add, Segment.actions, Segment.weightAfter, Except.map]
  | conditional expected path literal =>
    rw [add, Segment.actions]
    cases resolve path <;> rfl
  | preset path literal =>
    rw [add, Segment.actions]
    cases resolve path <;> rfl
  | direct path =>
    rw [add, Segment.actions]
    cases resolve path <;> rfl
  | parse pattern =>
    rw [add, Segment.actions]
    cases pattern.paths.mapM resolve <;> rfl

theorem addText_eq_ok_iff {s s' : Setter} {text : List Char} :
    s.addText text = .ok s' ↔ ∃ seg as, Segment.read text = .ok seg ∧ seg.actions = .ok as ∧
      ⟨seg.weightAfter s.weight, s.actions ++ as⟩ = s' := by
  simp only [addText, bind_eq_ok_iff, add_eq, map_eq_ok_iff, exists_and_left]

-- The induction is on the texts, from any setter that the texts before them have made.
theorem foldlM_addText_eq_ok_iff {s s' : Setter} {texts : List (List Char)} :
    texts.foldlM addText s = .ok s' ↔ ∃ segments actions, texts.mapM Segment.read = .ok segments ∧
      segments.mapM Segment.actions = .ok actions ∧
        ⟨segments.foldl Segment.weightAfter s.weight, s.actions ++ actions.flatten⟩ = s' := by
  induction texts generalizing s with
  | nil =>
    constructor
    · intro h
      obtain rfl := Except.ok.inj h
      exact ⟨[], [], rfl, rfl, by simp⟩
    · rintro ⟨segments, actions, hs, ha, rfl⟩
      obtain rfl := Except.ok.inj hs
      obtain rfl := Except.ok.inj ha
      simp [pure, Except.pure]
  | cons text texts ih =>
    rw [List.foldlM_cons, bind_eq_ok_iff]
    constructor
    · rintro ⟨s₁, hadd, hrest⟩
      obtain ⟨seg, as, hseg, has, rfl⟩ := addText_eq_ok_iff.mp hadd
      obtain ⟨segments, actions, hsegments, hactions, rfl⟩ := ih.mp hrest
      refine ⟨seg :: segments, as :: actions, ?_, ?_, by simp⟩
      · exact mapM_cons_eq_ok_iff.mpr ⟨seg, segments, hseg, hsegments, rfl⟩
      · exact mapM_cons_eq_ok_iff.mpr ⟨as, actions, has, hactions, rfl⟩
    · rintro ⟨segments, actions, hsegments, hactions, rfl⟩
      obtain ⟨seg, behind, hseg, hbehind, rfl⟩ := mapM_cons_eq_ok_iff.mp hsegments
      obtain ⟨as, others, has, hothers, rfl⟩ := mapM_cons_eq_ok_iff.mp hactions
      refine ⟨_, addText_eq_ok_iff.mpr ⟨seg, as, hseg, has, rfl⟩, ?_⟩
      exact ih.mpr ⟨behind, others, hbehind, hothers, by simp⟩

/-- A leaf compiles to the actions of its segments and the last of their weights. -/
theorem compile_eq_ok_iff {leaf : String} {s : Setter} :
    compile leaf = .ok s ↔ ∃ segments actions, Segment.readAll leaf = .ok segments ∧
      segments.mapM Segment.actions = .ok actions ∧
        ⟨segments.foldl Segment.weightAfter 0, actions.flatten⟩ = s :=
  foldlM_addText_eq_ok_iff

theorem apply_singleton (weight : Int) (a : Action) (value : String) :
    apply ⟨weight, [a]⟩ value = a.run value := bind_pure (a.run value)

end Setter
end ServiceAtlas
