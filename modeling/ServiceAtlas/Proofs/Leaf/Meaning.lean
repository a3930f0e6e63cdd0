import ServiceAtlas.Proofs.Leaf.Compiled
import ServiceAtlas.Proofs.Record.Runs

/-!
# What segments mean

A segment has a meaning of its own: what it does with a value, told by the paths that it names. The
actions of a compiled leaf, with all paths resolved beforehand, do what its segments mean, one after
the other, and its weight is the last that a segment declares.
-/
namespace ServiceAtlas

theorem Target.storeAt_of_resolve {path : List Char} {t : Target}
    (h : Setter.resolve path = .ok t) (text : String) :
    storeAt (String.ofList path) text = t.store text := by
  rw [storeAt, show resolve (String.ofList path) = .ok t from h]

/-- Once the paths resolve, the parts are written to them in order, and a part that is left over is
an error after all writes. -/
theorem Action.storeParts_eq {paths : List (List Char)} {ts : List Target}
    (h : paths.mapM Setter.resolve = .ok ts) (all parts : List String) :
    storeParts all ts parts = (do
      Target.storeAll ((paths.map String.ofList).zip parts)
      if paths.length < parts.length then throw (.tooManyValues all)) := by
  induction paths generalizing ts parts with
  | nil =>
    obtain rfl : [] = ts := Except.ok.inj h
    cases parts with
    | nil => rfl
    | cons part parts => rfl
  | cons path paths ih =>
    obtain ⟨t, ts, ht, hts, rfl⟩ := mapM_cons_eq_ok_iff.mp h
    cases parts with
    | nil => rfl
    | cons part parts =>
      rw [storeParts, ih hts]
      simp [Target.storeAll, Target.storeAt_of_resolve ht, bind_assoc]

namespace Segment

/-- What a segment does with a value. -/
def run (value : String) : Segment → RecordM Unit
  | weight _ => pure ()
  | conditional expected path literal =>
    match Text.readBool value with
    | none => throw (.condition value)
    | some actual =>
      if actual = expected then Target.storeAt (String.ofList path) (String.ofList literal)
      else pure ()
  | parse pattern => do
    let split := Split.ofValue pattern.separators value.toList
    let parts := split.values.map String.ofList
    Action.noteMissing value split.missing
    Target.storeAll ((pattern.paths.map String.ofList).zip parts)
    if pattern.paths.length < parts.length then throw (.tooManyValues parts)
  | preset path literal => Target.storeAt (String.ofList path) (String.ofList literal)
  | direct path => Target.storeAt (String.ofList path) value

/-- The action of a segment does what the segment means. -/
theorem forM_run_of_actions {seg : Segment} {as : List Action} (h : seg.actions = .ok as)
    (value : String) : as.forM (Action.run value) = seg.run value := by
  cases seg with
  | weight n =>
    obtain rfl := Except.ok.inj h
    rfl
  | conditional expected path literal =>
    obtain ⟨t, ht, rfl⟩ := map_eq_ok_iff.mp h
    rw [run, Target.storeAt_of_resolve ht]
    exact bind_pure _
  | parse pattern =>
    obtain ⟨ts, hts, rfl⟩ := map_eq_ok_iff.mp h
    refine (bind_pure _).trans ?_
    simp only [Action.run, run, Action.storeParts_eq hts]
  | preset path literal =>
    obtain ⟨t, ht, rfl⟩ := map_eq_ok_iff.mp h
    rw [run, Target.storeAt_of_resolve ht]
    exact bind_pure _
  | direct path =>
    obtain ⟨t, ht, rfl⟩ := map_eq_ok_iff.mp h
    rw [run, Target.storeAt_of_resolve ht]
    exact bind_pure _

-- The induction is on the segments, each of which has put its actions behind those before it.
theorem actions_flatten {segments : List Segment} {actions : List (List Action)}
    (h : segments.mapM Segment.actions = .ok actions) :
    actions.flatten.length = segments.countP (·.weight?.isNone) ∧
      ∀ value, actions.flatten.forM (Action.run value) = segments.forM (run value) := by
  induction segments generalizing actions with
  | nil =>
    obtain rfl := Except.ok.inj h
    exact ⟨rfl, fun _ => rfl⟩
  | cons seg segments ih =>
    obtain ⟨as, others, has, hothers, rfl⟩ := mapM_cons_eq_ok_iff.mp h
    obtain ⟨hlength, hrun⟩ := ih hothers
    constructor
    · rw [List.flatten_cons, List.length_append, hlength, length_of_actions has, List.countP_cons,
        Nat.add_comm]
    · intro value
      have happend : (as ++ others.flatten).forM (Action.run value) =
          (do as.forM (Action.run value); others.flatten.forM (Action.run value)) :=
        List.forM_append
      rw [List.flatten_cons, happend, forM_run_of_actions has, hrun]
      rfl

end Segment

/-- A leaf compiles when its segments read and their paths resolve. It then has an action for each
segment that declares no weight, and it applies what its segments mean, in order up to the first
error. -/
theorem Setter.exists_compile_of_readAll {leaf : String} {segments : List Segment}
    (hread : Segment.readAll leaf = .ok segments)
    (hresolve : ∀ seg ∈ segments, ∀ path ∈ seg.paths, ∃ t, resolve path = .ok t) :
    ∃ s, compile leaf = .ok s ∧ s.weight = (segments.filterMap Segment.weight?).getLastD 0 ∧
      s.actions.length = segments.countP (·.weight?.isNone) ∧
        ∀ value, s.apply value = segments.forM (Segment.run value) := by
  obtain ⟨actions, hactions⟩ := Segment.exists_mapM_actions_eq_ok_iff.mpr hresolve
  obtain ⟨hlength, hrun⟩ := Segment.actions_flatten hactions
  exact ⟨_, compile_eq_ok_iff.mpr ⟨segments, actions, hread, hactions, rfl⟩,
    Segment.foldl_weightAfter segments 0, hlength, hrun⟩

end ServiceAtlas
