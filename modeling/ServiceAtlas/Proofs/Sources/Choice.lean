import ServiceAtlas.Files.Store
import ServiceAtlas.Proofs.Sources.Candidates

/-!
# The choice among candidates

Which document a search takes is settled by the candidates that are accepted, and by the first of
these alone. Those that are passed over may come and go anywhere in the list.
-/
namespace ServiceAtlas.Source

open Files (FileSystem Path Store)

/-- A candidate below the root that is accepted, with whatever record. -/
def Acceptable (s : Source) (fs : FileSystem Id) (root : Path) (candidate : String) : Prop :=
  ∃ r, s.Accepts fs (root.join ⟨candidate⟩) r

section
variable {s : Source} {fs : FileSystem Id} {root : Path} {candidate : String}
  {candidates others : List String}

theorem acceptable_iff :
    s.Acceptable fs root candidate ↔ (s.attempt fs (root.join ⟨candidate⟩)).run.isSome := by
  simp only [Acceptable, Option.isSome_iff_exists, attempt_eq_some_iff]

instance : DecidablePred (s.Acceptable fs root) := fun _ => decidable_of_iff' _ acceptable_iff

theorem extractFirst_eq_none_iff :
    (s.extractFirst fs root candidates).run = none ↔
      ∀ candidate ∈ candidates, ¬ s.Acceptable fs root candidate := by
  rw [extractFirst_eq_findSome?, List.findSome?_eq_none_iff]
  simp only [Option.map_eq_none_iff, attempt_eq_none_iff, Acceptable, not_exists]

/-- A second list is searched only where nothing is found in the first. -/
theorem extractFirst_append :
    (s.extractFirst fs root (candidates ++ others)).run =
      (s.extractFirst fs root candidates).run.or (s.extractFirst fs root others).run := by
  simp only [extractFirst_eq_findSome?, List.findSome?_append]

/-- A search does not come past a candidate that is accepted. -/
theorem extractFirst_append_cons {before : List String} {chosen : String}
    (h : s.Acceptable fs root chosen) :
    (s.extractFirst fs root (before ++ chosen :: others)).run =
      (s.extractFirst fs root (before ++ [chosen])).run := by
  have hfound : (s.extractFirst fs root (before ++ [chosen])).run ≠ none := fun hnone =>
    extractFirst_eq_none_iff.mp hnone chosen (by simp) h
  obtain ⟨x, hx⟩ := Option.ne_none_iff_exists'.mp hfound
  rw [← List.singleton_append, ← List.append_assoc, extractFirst_append, hx, Option.some_or]

/-- What is not accepted leaves no trace. -/
theorem extractFirst_filter :
    (s.extractFirst fs root (candidates.filter (s.Acceptable fs root ·))).run =
      (s.extractFirst fs root candidates).run := by
  rw [extractFirst_eq_findSome?, extractFirst_eq_findSome?, ← List.head?_filterMap,
    List.filterMap_filter, List.head?_filterMap]
  refine congrArg (candidates.findSome? ·) (funext fun candidate => ?_)
  by_cases h : s.Acceptable fs root candidate
  · rw [if_pos (decide_eq_true h)]
  · have hnone := attempt_eq_none_iff.mpr (not_exists.mp h)
    rw [if_neg (mt of_decide_eq_true h), hnone, Option.map_none]

end

/-- A search finds the first candidate that is accepted, at its own place and with the record of its
own bytes, and it finds nothing just where no candidate is accepted. So two lists with the same
accepted candidates in the same order are searched alike, whatever else is among them, and so are
two that part behind a candidate that is accepted. -/
theorem extractFirst_chooses (s : Source) (fs : FileSystem Id) (root : Path)
    (candidates : List String) :
    let found (candidates : List String) := (s.extractFirst fs root candidates).run
    (∀ x, found candidates = some x ↔ s.Finds fs root candidates x) ∧
    (found candidates = none ↔ ∀ candidate ∈ candidates, ¬ s.Acceptable fs root candidate) ∧
    (∀ others : List String,
      others.filter (s.Acceptable fs root ·) = candidates.filter (s.Acceptable fs root ·) →
        found others = found candidates) ∧
    ∀ before chosen after others, s.Acceptable fs root chosen →
      candidates = before ++ chosen :: after →
        found (before ++ chosen :: others) = found candidates := by
  intro found
  refine ⟨fun x => extractFirst_eq_some_iff, extractFirst_eq_none_iff, fun others h => ?_, ?_⟩
  · calc found others = found (others.filter (s.Acceptable fs root ·)) := extractFirst_filter.symm
      _ = found (candidates.filter (s.Acceptable fs root ·)) := by rw [h]
      _ = found candidates := extractFirst_filter
  · rintro before chosen after others hchosen rfl
    exact (extractFirst_append_cons hchosen).trans (extractFirst_append_cons hchosen).symm

/-- Six candidates that are passed over, each for a reason of its own, and two that are accepted. -/
theorem extractFirst_chooses_port :
    let file (s : Store) (name text : String) := s.addFile ⟨name⟩ (Text.encodeUtf8 text)
    let store := file (file (file (file (file (file ((Store.empty Store.standardRoot).addDirectory
      ⟨"directory"⟩) "hidden" "port: 1") "large" "port: 1234") "sealed" "port: 2")
      "wrong" "port: a") "first" "port: 3") "second" "port: 4"
    let fs : FileSystem Id := { store.fileSystem with
      info := fun p =>
        if p = ⟨"/mock/hidden"⟩ then .error (.infoRefused p .forbidden) else store.info p
      read := fun p =>
        if p = ⟨"/mock/sealed"⟩ then .error (.readRefused p .forbidden) else store.read p }
    let port : Address Schema.record := .beside (.beside (.beside (.scalar (.there .here))))
    let source : Source :=
      ⟨"port", 0, ⟨[("port", .leaf { actions := [.direct ⟨"all.redis.port", port⟩] })]⟩, 7⟩
    let found candidates := (source.extractFirst fs ⟨"/mock"⟩ candidates).run
    let passedOver := ["absent", "directory", "hidden", "large", "sealed", "wrong"]
    let x : Extraction := ⟨⟨"/mock/first"⟩, (Record.empty.write port (3 : Int)).release⟩
    found (passedOver ++ ["first", "second"]) = some x ∧ found passedOver = none ∧
      found ["first", "absent", "second", "wrong"] = some x ∧
      found (passedOver ++ ["first", "hidden"]) = some x := by
  intro file store fs port source found passedOver x
  obtain ⟨hfirst, -, hsame, hbehind⟩ :=
    extractFirst_chooses source fs ⟨"/mock"⟩ (passedOver ++ ["first", "second"])
  obtain ⟨-, hnone, -, -⟩ := extractFirst_chooses source fs ⟨"/mock"⟩ passedOver
  have hpassed : ∀ candidate ∈ passedOver, ¬ source.Acceptable fs ⟨"/mock"⟩ candidate := by
    decide +kernel
  have haccepts : source.Accepts fs x.path x.record :=
    attempt_eq_some_iff.mp (by decide +kernel)
  have hfound := (hfirst x).mpr ⟨passedOver, "first", ["second"], rfl,
    fun earlier hmem => not_exists.mp (hpassed earlier hmem), by decide, haccepts⟩
  have hacceptable : source.Acceptable fs ⟨"/mock"⟩ "first" := by decide +kernel
  refine ⟨hfound, hnone.mpr hpassed, ?_, ?_⟩
  · exact (hsame _ (by decide +kernel)).trans hfound
  · exact (hbehind passedOver "first" ["second"] ["hidden"] hacceptable rfl).trans hfound

end ServiceAtlas.Source
