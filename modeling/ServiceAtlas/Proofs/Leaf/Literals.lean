import ServiceAtlas.Proofs.Extract.Script
import ServiceAtlas.Proofs.Leaf.Compiled
import ServiceAtlas.Proofs.Leaf.Cuts

/-!
# Literals of leaves

A leaf is accepted for the form of its segments and for its paths. The literals that it writes are
converted when a document reaches them, like the texts that it takes from a value, and a literal that
is not of the type of its field fails only then.
-/
namespace ServiceAtlas

/-- The parts of a value are pieces of it. -/
theorem Split.infix_of_mem_values {separators : List Separator} {value part : List Char}
    (h : part ∈ (ofValue separators value).values) : part <:+: value := by
  obtain ⟨cuts, left, rest, hinto, hvalues, -⟩ := exists_cutInto separators value
  rw [hvalues] at h
  rw [hinto.value_eq]
  rcases List.mem_append.mp (List.mem_of_mem_filter h) with h | h
  · obtain ⟨⟨part, s⟩, hcut, rfl⟩ := List.mem_map.mp h
    have hpart : part ++ s.literal <:+: cuts.flatMap fun cut => cut.1 ++ cut.2.literal :=
      List.infix_of_mem_flatten (List.mem_map_of_mem hcut)
    exact (List.prefix_append part s.literal).isInfix.trans
      (hpart.trans (List.prefix_append _ rest).isInfix)
  · split at h
    · exact absurd h List.not_mem_nil
    · obtain rfl := List.mem_singleton.mp h
      exact (List.suffix_append _ part).isInfix

/-- A text fails to be written when it does not convert. -/
theorem Target.result_script_eq_error_iff {t : Target} {text : String} {e : ExtractError} :
    (t.script text).result = .error e ↔
      t.write? text = none ∧ e = .conversion t.path text t.address.field.type := by
  rw [script]
  cases t.write? text with
  | none => simp [Script.fail, eq_comm]
  | some w => simp [Script.change]

theorem Target.result_script_eq_ok_iff {t : Target} {text : String} :
    (t.script text).result = .ok () ↔ (t.write? text).isSome := by
  rw [script]
  cases t.write? text with
  | none => simp [Script.fail]
  | some w => simp [Script.change]

namespace Action

/-- The texts that an action takes from a value: the value itself, or its parts. -/
def taken (value : String) : Action → List String
  | direct _ => [value]
  | preset _ _ => []
  | conditional _ _ _ => []
  | parse _ separators => (Split.ofValue separators value.toList).values.map String.ofList

/-- The literal that an action writes, with the field it is for. -/
def literal? : Action → Option (Target × String)
  | direct _ => none
  | preset t literal => some (t, literal)
  | conditional _ t literal => some (t, literal)
  | parse _ _ => none

/-- The literal of an action, if there is one, converts to the type of its field. -/
def Fits (a : Action) : Prop := ∀ t literal, a.literal? = some (t, literal) →
  (t.write? literal).isSome

theorem infix_of_mem_taken {value text : String} {a : Action} (h : text ∈ a.taken value) :
    text.toList <:+: value.toList := by
  cases a with
  | direct t =>
    obtain rfl := List.mem_singleton.mp h
    exact List.infix_rfl
  | preset t literal => exact absurd h List.not_mem_nil
  | conditional expected t literal => exact absurd h List.not_mem_nil
  | parse ts separators =>
    obtain ⟨part, hpart, rfl⟩ := List.mem_map.mp h
    rw [String.toList_ofList]
    exact Split.infix_of_mem_values hpart

theorem mem_of_conversion_scriptOfParts {all parts : List String} {ts : List Target}
    {path text : String} {type : FieldType}
    (h : (scriptOfParts all ts parts).result = .error (.conversion path text type)) :
    text ∈ parts := by
  induction parts generalizing ts with
  | nil =>
    rw [scriptOfParts] at h
    cases h
  | cons part parts ih =>
    cases ts with
    | nil => cases h
    | cons t ts =>
      rw [scriptOfParts] at h
      cases ht : (t.script part).result with
      | error e =>
        rw [Script.andThen, ht] at h
        obtain ⟨-, he⟩ := Target.result_script_eq_error_iff.mp (ht.trans h)
        obtain ⟨-, rfl, -⟩ := ExtractError.conversion.inj he
        exact List.mem_cons_self
      | ok u =>
        rw [Script.andThen, ht] at h
        exact List.mem_cons_of_mem part (ih h)

/-- A text that an action cannot convert was taken from the value, or is a literal that does not
fit. -/
theorem mem_taken_or_not_fits {value path text : String} {type : FieldType} {a : Action}
    (h : (a.script value).result = .error (.conversion path text type)) :
    text ∈ a.taken value ∨ ∃ t, a.literal? = some (t, text) ∧ ¬ a.Fits := by
  have hliteral (t : Target) (literal : String) (ha : a.literal? = some (t, literal))
      (ht : (t.script literal).result = .error (.conversion path text type)) :
      ∃ t, a.literal? = some (t, text) ∧ ¬ a.Fits := by
    obtain ⟨hnone, he⟩ := Target.result_script_eq_error_iff.mp ht
    obtain ⟨-, rfl, -⟩ := ExtractError.conversion.inj he
    refine ⟨t, ha, ?_⟩
    intro hfits
    have hsome := hfits t text ha
    rw [hnone] at hsome
    cases hsome
  cases a with
  | direct t =>
    obtain ⟨-, he⟩ := Target.result_script_eq_error_iff.mp h
    obtain ⟨-, rfl, -⟩ := ExtractError.conversion.inj he
    exact Or.inl (List.mem_singleton_self text)
  | preset t literal => exact Or.inr (hliteral t literal rfl h)
  | conditional expected t literal =>
    rw [script] at h
    split at h
    · cases h
    · split at h
      · exact Or.inr (hliteral t literal rfl h)
      · cases h
  | parse ts separators =>
    have hmissing : (scriptOfMissing value
        (Split.ofValue separators value.toList).missing).result = .ok () := by
      cases (Split.ofValue separators value.toList).missing <;> rfl
    rw [script, Script.andThen, hmissing] at h
    exact Or.inl (mem_of_conversion_scriptOfParts h)

end Action

namespace Segment

/-- A segment that writes the same whatever the value is, or writes nothing. -/
def isFixed : Segment → Bool
  | weight _ => true
  | preset .. => true
  | conditional .. => false
  | parse _ => false
  | direct _ => false

theorem preset_of_mem_actions {seg : Segment} {as : List Action} (h : seg.isFixed = true)
    (has : seg.actions = .ok as) : ∀ a ∈ as, ∃ t literal, a = .preset t literal := by
  cases seg with
  | weight n =>
    obtain rfl := Except.ok.inj has
    simp
  | preset path literal =>
    obtain ⟨t, -, rfl⟩ := map_eq_ok_iff.mp has
    simp
  | conditional expected path literal => cases h
  | parse pattern => cases h
  | direct path => cases h

/-- An action is the only one of its segment. -/
theorem eq_singleton_of_mem_actions {seg : Segment} {as : List Action} {a : Action}
    (has : seg.actions = .ok as) (ha : a ∈ as) : seg.actions = .ok [a] := by
  have hlength : as.length ≤ 1 := by
    rw [length_of_actions has]
    split <;> decide
  obtain ⟨b, bs, rfl⟩ := List.exists_cons_of_ne_nil (List.ne_nil_of_mem ha)
  obtain rfl : bs = [] := by simpa using hlength
  rwa [List.mem_singleton.mp ha]

end Segment

namespace Setter

/-- A setter that fails has run the actions before one of them, which then failed. -/
theorem exists_failed_action {s : Setter} {value : String} {r r' : Record} {e : ExtractError}
    (h : (s.apply value).runOn r = (.error e, r')) :
    ∃ before a after r₁, s.actions = before ++ a :: after ∧
      (apply ⟨s.weight, before⟩ value).runOn r = (.ok (), r₁) ∧
        (a.run value).runOn r₁ = (.error e, r') := by
  rw [s.performs_apply value r] at h
  obtain ⟨hresult, hchanges⟩ := Prod.mk.inj h
  obtain ⟨front, script, back, hsplit, hfront, hscript, hall⟩ :=
    Script.exists_of_result_all_eq_error hresult
  obtain ⟨before, rest, hactions, rfl, hrest⟩ := List.map_eq_append_iff.mp hsplit
  obtain ⟨a, after, rfl, rfl, -⟩ := List.map_eq_cons_iff.mp hrest
  have hbefore : (apply ⟨s.weight, before⟩ value).runOn r =
      (.ok (), r.applyAll (Script.all (before.map (Action.script value))).changes) := by
    rw [performs_apply ⟨s.weight, before⟩ value r, script, hfront]
  refine ⟨before, a, after, _, hactions, hbefore, ?_⟩
  rw [Action.performs_run value a, hscript, ← Record.applyAll_append, ← hall]
  exact congrArg (Prod.mk (Except.error e)) hchanges

theorem exists_segment_of_mem_actions {leaf : String} {s : Setter} {segments : List Segment}
    (hs : compile leaf = .ok s) (hread : Segment.readAll leaf = .ok segments) {a : Action}
    (ha : a ∈ s.actions) : ∃ seg ∈ segments, seg.actions = .ok [a] := by
  obtain ⟨segments', actions, hread', hactions, rfl⟩ := compile_eq_ok_iff.mp hs
  obtain rfl := Except.ok.inj (hread.symm.trans hread')
  obtain ⟨as, has, hmem⟩ := List.mem_flatten.mp ha
  obtain ⟨seg, hseg, heq⟩ := mem_of_mapM_eq_ok hactions has
  exact ⟨seg, hseg, Segment.eq_singleton_of_mem_actions heq hmem⟩

/-- Whether a leaf is accepted depends on the form of its segments and on their paths only. -/
theorem exists_compile_eq_ok_iff {leaf : String} :
    (∃ s, compile leaf = .ok s) ↔ ∃ segments, Segment.readAll leaf = .ok segments ∧
      ∀ seg ∈ segments, ∀ path ∈ seg.paths, ∃ t, resolve path = .ok t := by
  simp only [← Segment.exists_mapM_actions_eq_ok_iff, compile_eq_ok_iff]
  constructor
  · rintro ⟨s, segments, actions, hread, hmap, -⟩
    exact ⟨segments, hread, actions, hmap⟩
  · rintro ⟨segments, hread, actions, hmap⟩
    exact ⟨_, segments, actions, hread, hmap, rfl⟩

/-- Where every action writes a literal whatever the value is, a setter succeeds if the literals
fit. -/
theorem apply_presets_eq_ok_iff {s : Setter}
    (h : ∀ a ∈ s.actions, ∃ t literal, a = .preset t literal) (value : String) (r : Record) :
    ((s.apply value).runOn r).1 = .ok () ↔ ∀ a ∈ s.actions, a.Fits := by
  rw [s.performs_apply value r, script, Script.result_all_eq_ok_iff, List.forall_mem_map]
  apply forall₂_congr
  intro a ha
  obtain ⟨t, literal, rfl⟩ := h a ha
  rw [Action.script, Target.result_script_eq_ok_iff, Action.Fits]
  constructor
  · rintro hsome t' literal' heq
    obtain ⟨rfl, rfl⟩ := Prod.mk.inj (Option.some.inj heq)
    exact hsome
  · intro hfits
    exact hfits t literal rfl

/-- A leaf is accepted for its form and its paths, whatever its literals are. When its setter fails to
convert a text, an action of one segment was reached, and either it took the text from the value or
the text is its literal, which does not fit; a leaf that writes only presets succeeds on every value
if all of them fit, and on none otherwise. -/
theorem conversion_of_compile (leaf : String) :
    ((∃ s, compile leaf = .ok s) ↔ ∃ segments, Segment.readAll leaf = .ok segments ∧
      ∀ seg ∈ segments, ∀ path ∈ seg.paths, ∃ t, resolve path = .ok t) ∧
    ∀ s segments, compile leaf = .ok s → Segment.readAll leaf = .ok segments →
      (∀ value r path text type r',
        (s.apply value).runOn r = (.error (.conversion path text type), r') →
          ∃ before a after r₁, s.actions = before ++ a :: after ∧
            (apply ⟨s.weight, before⟩ value).runOn r = (.ok (), r₁) ∧
            (a.run value).runOn r₁ = (.error (.conversion path text type), r') ∧
            (∃ seg ∈ segments, seg.actions = .ok [a]) ∧
            (text ∈ a.taken value ∧ text.toList <:+: value.toList ∨
              ∃ t, a.literal? = some (t, text) ∧ ¬ a.Fits)) ∧
      ((∀ seg ∈ segments, seg.isFixed = true) →
        ∀ value r, ((s.apply value).runOn r).1 = .ok () ↔ ∀ a ∈ s.actions, a.Fits) := by
  refine ⟨exists_compile_eq_ok_iff, ?_⟩
  intro s segments hs hread
  constructor
  · intro value r path text type r' h
    obtain ⟨before, a, after, r₁, hactions, hbefore, ha⟩ := exists_failed_action h
    have hmem : a ∈ s.actions := hactions ▸ List.mem_append_right before List.mem_cons_self
    refine ⟨before, a, after, r₁, hactions, hbefore, ha,
      exists_segment_of_mem_actions hs hread hmem, ?_⟩
    have hscript : (a.script value).result = .error (.conversion path text type) :=
      (congrArg Prod.fst (Action.performs_run value a r₁)).symm.trans (congrArg Prod.fst ha)
    refine (Action.mem_taken_or_not_fits hscript).imp_left ?_
    intro htaken
    exact ⟨htaken, Action.infix_of_mem_taken htaken⟩
  · intro hfixed value r
    refine apply_presets_eq_ok_iff ?_ value r
    intro a ha
    obtain ⟨seg, hseg, has⟩ := exists_segment_of_mem_actions hs hread ha
    exact Segment.preset_of_mem_actions (hfixed seg hseg) has a List.mem_cons_self

/-- A preset number is written whatever the value is, and a port that does not convert is the value. -/
theorem conversion_of_compile_port :
    (∃ s segments, compile "weight 3 | all.kafka.port = 9092" = .ok s ∧
      Segment.readAll "weight 3 | all.kafka.port = 9092" = .ok segments ∧
      (∀ seg ∈ segments, seg.isFixed = true) ∧
      ∀ value r, ((s.apply value).runOn r).1 = .ok ()) ∧
    ∃ s segments r', compile "all.kafka.port" = .ok s ∧
      Segment.readAll "all.kafka.port" = .ok segments ∧
      (s.apply "none").runOn .empty =
        (.error (.conversion "all.kafka.port" "none" .integer), r') ∧
      ∃ seg ∈ segments, ∃ a, seg.actions = .ok [a] ∧ "none" ∈ a.taken "none" := by
  let t : Target := ⟨"all.kafka.port", .beside (.beside (.scalar (.there (.there .here))))⟩
  constructor
  · have hs : compile "weight 3 | all.kafka.port = 9092" = .ok ⟨3, [.preset t "9092"]⟩ := by
      decide +kernel
    have hread : Segment.readAll "weight 3 | all.kafka.port = 9092" =
        .ok [.weight 3, .preset "all.kafka.port".toList "9092".toList] := by decide +kernel
    have hfixed : ∀ seg ∈ [Segment.weight 3, .preset "all.kafka.port".toList "9092".toList],
        seg.isFixed = true := by decide
    refine ⟨_, _, hs, hread, hfixed, ?_⟩
    intro value r
    refine (((conversion_of_compile _).2 _ _ hs hread).2 hfixed value r).mpr ?_
    refine List.forall_mem_singleton.mpr ?_
    rintro t' literal heq
    obtain ⟨rfl, rfl⟩ := Prod.mk.inj (Option.some.inj heq)
    decide +kernel
  · have hs : compile "all.kafka.port" = .ok ⟨0, [.direct t]⟩ := by decide +kernel
    have hread : Segment.readAll "all.kafka.port" = .ok [.direct "all.kafka.port".toList] := by
      decide +kernel
    have hwrite : t.write? "none" = none := by decide +kernel
    have hrun : (apply ⟨0, [.direct t]⟩ "none").runOn .empty =
        (.error (.conversion "all.kafka.port" "none" .integer), .empty) := by
      rw [apply_singleton, Action.run, Target.runOn_store, hwrite]
      rfl
    obtain ⟨before, a, after, r₁, -, -, -, ⟨seg, hseg, ha⟩, horigin⟩ :=
      ((conversion_of_compile _).2 _ _ hs hread).1 _ _ _ _ _ _ hrun
    refine ⟨_, _, _, hs, hread, hrun, seg, hseg, a, ha, ?_⟩
    rcases horigin with ⟨htaken, -⟩ | ⟨t', hliteral, -⟩
    · exact htaken
    · obtain rfl := List.mem_singleton.mp hseg
      have hdirect : (Segment.direct "all.kafka.port".toList).actions = .ok [.direct t] := by
        decide +kernel
      obtain rfl := List.singleton_inj.mp (Except.ok.inj (hdirect.symm.trans ha))
      cases hliteral

/-- A port that is no number is accepted, and no value can be written by it. -/
theorem apply_unfit_literal :
    ∃ s, compile "\x7b\x7b all.kafka.port = abc \x7d\x7d" = .ok s ∧
      (∀ value r, (s.apply value).runOn r =
        (.error (.conversion "all.kafka.port" "abc" .integer), r)) ∧
      ¬ "abc".toList <:+: "9092".toList := by
  let t : Target := ⟨"all.kafka.port", .beside (.beside (.scalar (.there (.there .here))))⟩
  have hs : compile "\x7b\x7b all.kafka.port = abc \x7d\x7d" = .ok ⟨0, [.preset t "abc"]⟩ := by
    decide +kernel
  refine ⟨_, hs, ?_, by decide +kernel⟩
  intro value r
  have hwrite : t.write? "abc" = none := by decide +kernel
  rw [apply_singleton, Action.run, Target.runOn_store, hwrite]
  rfl

end Setter
end ServiceAtlas
