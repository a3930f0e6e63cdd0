import ServiceAtlas.Proofs.Extract.Files
import ServiceAtlas.Sources.Source

/-!
# Candidate documents

A search among candidates ends at the first that is accepted. What comes behind it is not looked at,
and what comes before it leaves no trace.
-/
namespace ServiceAtlas.Source

open Files (FileSystem Path)

variable {s : Source} {fs fs' : FileSystem Id} {root path : Path} {candidates : List String}

/-- A document that is a file and is extracted within the limit of the source. -/
def Accepts (s : Source) (fs : FileSystem Id) (path : Path) (r : Record) : Prop :=
  (fs.isFile path).run = true ∧ s.template.Extracts s.sizeLimit fs path r

/-- A candidate below the root that is accepted while none before it is. -/
def Finds (s : Source) (fs : FileSystem Id) (root : Path) (candidates : List String)
    (x : Extraction) : Prop :=
  ∃ before candidate after, candidates = before ++ candidate :: after ∧
    (∀ earlier ∈ before, ∀ r, ¬ s.Accepts fs (root.join ⟨earlier⟩) r) ∧
    root.join ⟨candidate⟩ = x.path ∧ s.Accepts fs x.path x.record

theorem Finds.exists_accepts {x : Extraction} (h : s.Finds fs root candidates x) :
    ∃ candidate ∈ candidates,
      root.join ⟨candidate⟩ = x.path ∧ s.Accepts fs (root.join ⟨candidate⟩) x.record := by
  obtain ⟨before, candidate, after, rfl, -, hpath, hx⟩ := h
  exact ⟨candidate, by simp, hpath, hpath ▸ hx⟩

theorem attempt_eq_some_iff {r : Record} :
    (s.attempt fs path).run = some r ↔ s.Accepts fs path r := by
  rw [attempt, Id.run_bind, Accepts, Template.Extracts]
  cases (fs.isFile path).run with
  | false => simp
  | true =>
    rw [if_pos rfl, Id.run_bind]
    cases (fs.info path).run with
    | error error => simp
    | ok info =>
      dsimp only
      split
      · next hlarge => simp [Nat.not_le.mpr hlarge]
      · next hsize =>
        rw [Id.run_bind]
        cases (fs.read path).run with
        | error error => simp
        | ok bytes => simp [toOption_eq_some_iff, Nat.not_lt.mp hsize]

theorem attempt_eq_none_iff :
    (s.attempt fs path).run = none ↔ ∀ r, ¬ s.Accepts fs path r := by
  simp only [Option.eq_none_iff_forall_ne_some, ne_eq, attempt_eq_some_iff]

theorem extractFirst_eq_findSome? :
    (s.extractFirst fs root candidates).run = candidates.findSome? fun candidate =>
      (s.attempt fs (root.join ⟨candidate⟩)).run.map (⟨root.join ⟨candidate⟩, ·⟩) := by
  induction candidates with
  | nil => rfl
  | cons candidate candidates ih =>
    rw [extractFirst, Id.run_bind, List.findSome?_cons, ← ih]
    cases (s.attempt fs (root.join ⟨candidate⟩)).run <;> rfl

theorem extractFirst_eq_some_iff {x : Extraction} :
    (s.extractFirst fs root candidates).run = some x ↔ s.Finds fs root candidates x := by
  rw [extractFirst_eq_findSome?, List.findSome?_eq_some_iff, Finds]
  simp only [Option.map_eq_some_iff, Option.map_eq_none_iff, attempt_eq_some_iff,
    attempt_eq_none_iff]
  constructor
  · rintro ⟨before, candidate, after, hsplit, ⟨r, hr, rfl⟩, hbefore⟩
    exact ⟨before, candidate, after, hsplit, hbefore, rfl, hr⟩
  · rintro ⟨before, candidate, after, hsplit, hbefore, hpath, hr⟩
    subst hsplit
    refine ⟨before, candidate, after, rfl, ⟨x.record, hpath ▸ hr, ?_⟩, hbefore⟩
    rw [hpath]

theorem finds_singleton {candidate : String} {x : Extraction} :
    s.Finds fs root [candidate] x ↔
      root.join ⟨candidate⟩ = x.path ∧ s.Accepts fs (root.join ⟨candidate⟩) x.record := by
  constructor
  · intro h
    obtain ⟨candidate', hmem, hx⟩ := h.exists_accepts
    obtain rfl := List.mem_singleton.mp hmem
    exact hx
  · rintro ⟨hpath, hx⟩
    exact ⟨[], candidate, [], rfl, by simp, hpath, hpath ▸ hx⟩

/-- A search is settled by what the file system says of its candidates. -/
theorem finds_congr {x : Extraction}
    (h : ∀ candidate ∈ candidates, fs.AgreesAt fs' (root.join ⟨candidate⟩)) :
    s.Finds fs' root candidates x ↔ s.Finds fs root candidates x := by
  have haccepts (candidate : String) (hmem : candidate ∈ candidates) (r : Record) :
      s.Accepts fs' (root.join ⟨candidate⟩) r ↔ s.Accepts fs (root.join ⟨candidate⟩) r := by
    obtain ⟨hisFile, hinfo, hread⟩ := h candidate hmem
    rw [Accepts, Accepts, hisFile, Template.extracts_congr hinfo hread]
  unfold Finds
  refine exists₃_congr fun before candidate after => and_congr_right fun hsplit => ?_
  have hearlier (earlier : String) (hmem : earlier ∈ before) : earlier ∈ candidates := by
    simp [hsplit, hmem]
  refine and_congr (forall₂_congr fun earlier hmem => ?_) (and_congr_right fun hpath => ?_)
  · exact forall_congr' fun r => not_congr (haccepts earlier (hearlier earlier hmem) r)
  · rw [← hpath]
    exact haccepts candidate (by simp [hsplit]) x.record

end ServiceAtlas.Source
