import ServiceAtlas.Proofs.Extract.Errors
import ServiceAtlas.Proofs.Leaf.Printed
import ServiceAtlas.Proofs.Text.Pieces

/-!
# Leaves of several segments

A leaf is compiled segment by segment: it fails with the error of the first segment that fails as a
leaf of its own, and otherwise its setter does what the setters of the single segments do in turn.
Segments that declare a weight do nothing to a record.
-/
namespace ServiceAtlas

namespace Segment

/-- Texts that can stand between the bars of a leaf, whatever they say. -/
structure AreSegments (texts : List String) : Prop where
  ne_nil : texts ≠ []
  bar_notMem : ∀ text ∈ texts, '|' ∉ text.toList

/-- The leaf with some texts between its bars. -/
def pipeline (texts : List String) : String :=
  "\x7b\x7b " ++ " | ".intercalate texts ++ " \x7d\x7d"

/-- The weight that a text between bars declares, if it does. -/
def declared? (text : String) : Option Int :=
  (Text.after? "weight ".toList (Text.trim text.toList)).bind fun rest =>
    (Text.readInt64 rest).toOption

/-- The same texts in the same order, those left off that declare a weight. -/
def SameButWeights (texts texts' : List String) : Prop :=
  texts.filter (fun text => (declared? text).isNone) =
    texts'.filter fun text => (declared? text).isNone

instance (texts texts' : List String) : Decidable (SameButWeights texts texts') :=
  inferInstanceAs (Decidable (_ = _))

theorem areSegments_singleton {text : String} (h : '|' ∉ text.toList) : AreSegments [text] :=
  ⟨List.cons_ne_nil text [], List.forall_mem_singleton.mpr h⟩

theorem texts_pipeline {texts : List String} (h : AreSegments texts) :
    Segment.texts (pipeline texts).toList = texts.map fun text => Text.trim text.toList := by
  have hjoin : (pipeline texts).toList =
      opening ++ Text.joinWith " | ".toList (texts.map String.toList) ++ closing := by
    simp [pipeline, opening, closing, Text.joinWith_eq_intercalate, String.toList_intercalate]
  rw [hjoin, texts_joinWith (by simpa using h.ne_nil) (List.forall_mem_map.mpr h.bar_notMem),
    List.map_map]
  rfl

theorem weight?_of_readConditional {segment rest : List Char} {seg : Segment}
    (h : readConditional segment rest = .ok seg) : seg.weight? = none := by
  rw [readConditional] at h
  cases hcut : Text.cut? [' '] rest with
  | none =>
    rw [hcut] at h
    cases h
  | some halves =>
    obtain ⟨condition, assignment⟩ := halves
    simp only [hcut] at h
    split at h
    · cases h
    · split at h
      · cases h
      · obtain rfl := Except.ok.inj h
        rfl

theorem weight?_of_readParse {segment rest : List Char} {seg : Segment}
    (h : readParse segment rest = .ok seg) : seg.weight? = none := by
  dsimp only [readParse] at h
  split at h
  · cases h
  · obtain rfl := Except.ok.inj h
    rfl

/-- A text declares the weight of the segment that it is read as. -/
theorem declared?_of_read {text : String} {seg : Segment}
    (h : read (Text.trim text.toList) = .ok seg) : declared? text = seg.weight? := by
  rw [read] at h
  rw [declared?]
  cases hafter : Text.after? "weight ".toList (Text.trim text.toList) with
  | some rest =>
    simp only [hafter, readWeight] at h
    cases hread : Text.readInt64 rest with
    | error fault =>
      simp only [hread] at h
      cases h
    | ok n =>
      simp only [hread] at h
      obtain rfl := Except.ok.inj h
      rw [Option.bind_some, hread]
      rfl
  | none =>
    -- The other forms are read as segments without a weight.
    simp only [hafter] at h
    rw [Option.bind_none]
    split at h
    · exact (weight?_of_readConditional h).symm
    · split at h
      · exact (weight?_of_readParse h).symm
      · split at h <;> obtain rfl := Except.ok.inj h <;> rfl

theorem read_of_declared? {text : String} {n : Int} (h : declared? text = some n) :
    read (Text.trim text.toList) = .ok (.weight n) := by
  obtain ⟨rest, hafter, hn⟩ := Option.bind_eq_some_iff.mp h
  cases hread : Text.readInt64 rest with
  | error fault =>
    rw [hread] at hn
    cases hn
  | ok m =>
    rw [hread] at hn
    obtain rfl : m = n := Option.some.inj hn
    simp only [read, hafter, readWeight, hread]

end Segment

namespace Setter

open Segment (AreSegments pipeline declared? SameButWeights)

section Singles

variable {texts : List String}

/-- The only segment of a leaf is read into a setter without actions. -/
theorem compile_pipeline_singleton {text : String} (h : '|' ∉ text.toList) :
    compile (pipeline [text]) = ({} : Setter).addText (Text.trim text.toList) := by
  rw [compile, Segment.texts_pipeline (Segment.areSegments_singleton h)]
  exact bind_pure _

theorem error?_addText (s : Setter) (text : List Char) :
    error? (s.addText text) = error? (({} : Setter).addText text) := by
  rw [addText, addText]
  cases Segment.read text with
  | error e => rfl
  | ok seg =>
    change error? (s.add seg) = error? (({} : Setter).add seg)
    rw [add_eq, add_eq, error?_map, error?_map]

-- The induction is on the texts, from any setter that the texts before them have made.
theorem error?_foldlM_addText (s : Setter) (hbar : ∀ text ∈ texts, '|' ∉ text.toList) :
    error? ((texts.map fun text => Text.trim text.toList).foldlM addText s) =
      texts.findSome? fun text => error? (compile (pipeline [text])) := by
  induction texts generalizing s with
  | nil => rfl
  | cons text texts ih =>
    obtain ⟨htext, htexts⟩ := List.forall_mem_cons.mp hbar
    rw [List.map_cons, List.foldlM_cons, List.findSome?_cons, compile_pipeline_singleton htext,
      ← error?_addText s]
    cases s.addText (Text.trim text.toList) with
    | error e => rfl
    | ok s' => exact ih s' htexts

/-- A leaf has the error of the first segment that has one alone. -/
theorem error?_compile_pipeline (h : AreSegments texts) :
    error? (compile (pipeline texts)) =
      texts.findSome? fun text => error? (compile (pipeline [text])) := by
  rw [compile, Segment.texts_pipeline h, error?_foldlM_addText _ h.bar_notMem]

/-- The segments of a leaf have their actions and their weights also alone. -/
theorem exists_singles (hbar : ∀ text ∈ texts, '|' ∉ text.toList) {segments : List Segment}
    {actions : List (List Action)}
    (hread : (texts.map fun text => Text.trim text.toList).mapM Segment.read = .ok segments)
    (hactions : segments.mapM Segment.actions = .ok actions) :
    segments.filterMap Segment.weight? = texts.filterMap declared? ∧
      ∃ singles, (texts.mapM fun text => compile (pipeline [text])) = .ok singles ∧
        singles.map Setter.actions = actions := by
  induction texts generalizing segments actions with
  | nil =>
    obtain rfl := Except.ok.inj hread
    obtain rfl := Except.ok.inj hactions
    exact ⟨rfl, [], rfl, rfl⟩
  | cons text texts ih =>
    obtain ⟨htext, htexts⟩ := List.forall_mem_cons.mp hbar
    obtain ⟨seg, segments, hseg, hsegments, rfl⟩ := mapM_cons_eq_ok_iff.mp hread
    obtain ⟨as, actions, has, htail, rfl⟩ := mapM_cons_eq_ok_iff.mp hactions
    obtain ⟨hweights, singles, hsingles, rfl⟩ := ih htexts hsegments htail
    have hsingle : compile (pipeline [text]) = .ok ⟨seg.weightAfter 0, as⟩ := by
      rw [compile_pipeline_singleton htext]
      exact addText_eq_ok_iff.mpr ⟨seg, as, hseg, has, by simp⟩
    constructor
    · rw [List.filterMap_cons, List.filterMap_cons, Segment.declared?_of_read hseg, hweights]
    · exact ⟨_, mapM_cons_eq_ok_iff.mpr ⟨_, _, hsingle, hsingles, rfl⟩, rfl⟩

theorem forM_flatten (value : String) (singles : List Setter) :
    (singles.map Setter.actions).flatten.forM (Action.run value) =
      singles.forM fun single => single.apply value := by
  induction singles with
  | nil => rfl
  | cons single singles ih =>
    have happend : (single.actions ++ (singles.map Setter.actions).flatten).forM (Action.run value) =
        (do single.actions.forM (Action.run value)
            (singles.map Setter.actions).flatten.forM (Action.run value)) :=
      List.forM_append
    rw [List.map_cons, List.flatten_cons, happend, ih]
    rfl

/-- A leaf of several segments is made of the setters of the single ones. -/
theorem exists_singles_of_compile (h : AreSegments texts) {s : Setter}
    (hs : compile (pipeline texts) = .ok s) :
    s.weight = (texts.filterMap declared?).getLastD 0 ∧
      ∃ singles, (texts.mapM fun text => compile (pipeline [text])) = .ok singles ∧
        s.actions = (singles.map Setter.actions).flatten := by
  obtain ⟨segments, actions, hread, hactions, rfl⟩ := compile_eq_ok_iff.mp hs
  rw [Segment.readAll, Segment.texts_pipeline h] at hread
  obtain ⟨hweights, singles, hsingles, rfl⟩ := exists_singles h.bar_notMem hread hactions
  refine ⟨?_, singles, hsingles, rfl⟩
  change segments.foldl Segment.weightAfter 0 = _
  rw [Segment.foldl_weightAfter, hweights]

end Singles

section Weights

variable {texts : List String}

/-- A text declares a weight just when it compiles alone to a setter that does nothing. -/
theorem declared?_eq_some_iff {text : String} (h : '|' ∉ text.toList) {n : Int} :
    declared? text = some n ↔ compile (pipeline [text]) = .ok ⟨n, []⟩ := by
  rw [compile_pipeline_singleton h, addText_eq_ok_iff]
  constructor
  · intro hn
    exact ⟨.weight n, [], Segment.read_of_declared? hn, rfl, rfl⟩
  · rintro ⟨seg, as, hseg, has, hs⟩
    obtain ⟨hweight, rfl⟩ : seg.weightAfter 0 = n ∧ as = [] := by simpa using hs
    have hlength := Segment.length_of_actions has
    rw [Segment.weightAfter_eq] at hweight
    rw [Segment.declared?_of_read hseg]
    cases hw : seg.weight? with
    | none =>
      rw [hw] at hlength
      cases hlength
    | some m =>
      rw [hw] at hweight
      exact congrArg some hweight

theorem findSome?_filter_isNone (hbar : ∀ text ∈ texts, '|' ∉ text.toList) :
    (texts.filter fun text => (declared? text).isNone).findSome?
        (fun text => error? (compile (pipeline [text]))) =
      texts.findSome? fun text => error? (compile (pipeline [text])) := by
  induction texts with
  | nil => rfl
  | cons text texts ih =>
    obtain ⟨htext, htexts⟩ := List.forall_mem_cons.mp hbar
    rw [List.findSome?_cons, ← ih htexts]
    cases hd : declared? text with
    | none =>
      rw [List.filter_cons_of_pos (by simp [hd]), List.findSome?_cons]
    | some n =>
      rw [List.filter_cons_of_neg (by simp [hd]), (declared?_eq_some_iff htext).mp hd]
      rfl

theorem mapM_filter_isNone (hbar : ∀ text ∈ texts, '|' ∉ text.toList) {singles : List Setter}
    (h : (texts.mapM fun text => compile (pipeline [text])) = .ok singles) :
    ∃ others, ((texts.filter fun text => (declared? text).isNone).mapM fun text =>
        compile (pipeline [text])) = .ok others ∧
      (others.map Setter.actions).flatten = (singles.map Setter.actions).flatten := by
  induction texts generalizing singles with
  | nil =>
    obtain rfl := Except.ok.inj h
    exact ⟨[], rfl, rfl⟩
  | cons text texts ih =>
    obtain ⟨htext, htexts⟩ := List.forall_mem_cons.mp hbar
    obtain ⟨single, singles, hsingle, hsingles, rfl⟩ := mapM_cons_eq_ok_iff.mp h
    obtain ⟨others, hothers, hflatten⟩ := ih htexts hsingles
    cases hd : declared? text with
    | none =>
      refine ⟨single :: others, ?_, ?_⟩
      · rw [List.filter_cons_of_pos (by simp [hd])]
        exact mapM_cons_eq_ok_iff.mpr ⟨single, others, hsingle, hothers, rfl⟩
      · rw [List.map_cons, List.map_cons, List.flatten_cons, List.flatten_cons, hflatten]
    | some n =>
      obtain rfl := Except.ok.inj (hsingle.symm.trans ((declared?_eq_some_iff htext).mp hd))
      refine ⟨others, ?_, hflatten⟩
      rw [List.filter_cons_of_neg (by simp [hd])]
      exact hothers

variable {texts' : List String}

theorem error?_compile_of_sameButWeights (h : AreSegments texts) (h' : AreSegments texts')
    (hsame : SameButWeights texts texts') :
    error? (compile (pipeline texts)) = error? (compile (pipeline texts')) := by
  rw [error?_compile_pipeline h, error?_compile_pipeline h',
    ← findSome?_filter_isNone h.bar_notMem, hsame, findSome?_filter_isNone h'.bar_notMem]

/-- Segments that declare a weight have no part in the actions of a leaf. -/
theorem exists_compile_of_sameButWeights (h : AreSegments texts) (h' : AreSegments texts')
    (hsame : SameButWeights texts texts') {s : Setter} (hs : compile (pipeline texts) = .ok s) :
    ∃ s', compile (pipeline texts') = .ok s' ∧ s'.actions = s.actions := by
  have herror : error? (compile (pipeline texts')) = none :=
    (error?_compile_of_sameButWeights h h' hsame).symm.trans (error?_eq_none_iff.mpr ⟨s, hs⟩)
  obtain ⟨s', hs'⟩ := error?_eq_none_iff.mp herror
  obtain ⟨-, singles, hsingles, hactions⟩ := exists_singles_of_compile h hs
  obtain ⟨-, singles', hsingles', hactions'⟩ := exists_singles_of_compile h' hs'
  obtain ⟨others, hothers, hflatten⟩ := mapM_filter_isNone h.bar_notMem hsingles
  obtain ⟨others', hothers', hflatten'⟩ := mapM_filter_isNone h'.bar_notMem hsingles'
  rw [hsame, hothers'] at hothers
  obtain rfl := Except.ok.inj hothers
  refine ⟨s', hs', ?_⟩
  rw [hactions, hactions', ← hflatten, hflatten']

end Weights

end Setter
end ServiceAtlas
