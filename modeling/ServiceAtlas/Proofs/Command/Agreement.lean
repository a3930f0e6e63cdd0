import ServiceAtlas.Proofs.Command.Documents
import ServiceAtlas.Proofs.Files.Store
import ServiceAtlas.Proofs.Sources.Candidates

/-!
# Extraction and search agree

A search first asks whether a candidate is a file, which an extraction never does. In a store
neither goes beyond the other: both take a document just when a file stands at its path that is
within the limit and is extracted.
-/
namespace ServiceAtlas

open Files (Path Store)

variable {s : Store} {path root : Path} {r : Record}

theorem Template.extracts_store_iff {t : Template} {sizeLimit : Nat} :
    t.Extracts sizeLimit s.fileSystem path r ↔ ∃ content, s.entry? path = some (.file content) ∧
      content.length ≤ sizeLimit ∧ t.extract content = .ok r := by
  constructor
  · rintro ⟨info, content, hinfo, hsize, hread, hr⟩
    have hentry : s.entry? path = some (.file content) := Store.read_eq_ok_iff.mp hread
    obtain rfl := Except.ok.inj (hinfo.symm.trans (Store.info_of_file hentry))
    exact ⟨content, hentry, hsize, hr⟩
  · rintro ⟨content, hentry, hsize, hr⟩
    exact ⟨_, content, Store.info_of_file hentry, hsize, Store.read_eq_ok_iff.mpr hentry, hr⟩

namespace Source

variable {source : Source}

/-- What a store lets be extracted is a file. -/
theorem accepts_store_iff :
    source.Accepts s.fileSystem path r ↔
      source.template.Extracts source.sizeLimit s.fileSystem path r := by
  refine ⟨And.right, fun h => ⟨?_, h⟩⟩
  obtain ⟨content, hentry, -⟩ := Template.extracts_store_iff.mp h
  exact Store.isFile_iff.mpr ⟨content, hentry⟩

theorem extractFirst_singleton_store (candidate : String) :
    (source.extractFirst s.fileSystem root [candidate]).run =
      (Command.extractDocument source.template source.sizeLimit s.fileSystem
        (root.join ⟨candidate⟩)).run.toOption.map (Extraction.mk (root.join ⟨candidate⟩)) := by
  refine Option.ext fun x => ?_
  rw [extractFirst_eq_some_iff, finds_singleton, accepts_store_iff, Option.map_eq_some_iff]
  simp only [toOption_eq_some_iff, Command.extractDocument_eq_ok_iff]
  constructor
  · rintro ⟨hpath, hr⟩
    exact ⟨x.record, hr, by rw [hpath]⟩
  · rintro ⟨r, hr, rfl⟩
    exact ⟨rfl, hr⟩

end Source

namespace Command

/-- An extraction of a single document and a search for it below a root come to the same in every
store: the same report is written or none, with the same record, and the code of the extraction says
whether the search finds the document. Both turn away whatever is no file within the limit, and what
is not extracted. -/
theorem runExtract_agrees (s : Store) (source : Source) (template root : Path) (candidate : String)
    (format : Format) (h : source.template.IsAt s.fileSystem template) :
    let path := root.join ⟨candidate⟩
    let run := (runExtract s.fileSystem source.sizeLimit template format [path]).run
    let found := (source.extractFirst s.fileSystem root [candidate]).run
    run.codeWhen true = (if found.isSome then .success else .failure) ∧
      run.output = some (format.render
        (.sequence (found.map fun x => documentReport x.path x.record).toList)) ∧
      (extractDocument source.template source.sizeLimit s.fileSystem path).run.toOption =
        found.map Extraction.record ∧
      ∀ x, found = some x ↔ x.path = path ∧
        ∃ content, s.entry? path = some (.file content) ∧ content.length ≤ source.sizeLimit ∧
          source.template.extract content = .ok x.record := by
  intro path run found
  have hfound : found = _ := Source.extractFirst_singleton_store candidate
  have hreport : documentReport? source.template source.sizeLimit s.fileSystem path =
      found.map fun x => documentReport x.path x.record := by
    rw [hfound, Option.map_map]
    rfl
  obtain ⟨complaints, hrun, hcomplaints⟩ :=
    runExtract_of_isAt h source.sizeLimit format [path]
  have hrun : run = .ofBatch _ complaints := hrun
  refine ⟨?_, ?_, ?_, fun x => ?_⟩
  · have hnil : complaints = [] ↔ found.isSome := by
      rw [hcomplaints, List.forall_mem_singleton, hreport, Option.isSome_map]
    rw [hrun, Outcome.codeWhen_ofBatch]
    simp only [hnil, true_and]
  · rw [hrun, List.filterMap_cons, hreport]
    cases found <;> rfl
  · rw [hfound, Option.map_map]
    exact Option.map_id'.symm
  · have hx : found = some x ↔ _ := Source.extractFirst_eq_some_iff
    rw [hx, Source.finds_singleton, Source.accepts_store_iff, Template.extracts_store_iff, eq_comm]

/-- A document is taken by both, and the directory that it lies in by neither. -/
theorem runExtract_agrees_cache :
    let s := ((Store.empty Store.standardRoot).addFile ⟨"t"⟩
      (Text.encodeUtf8 "host: all.redis.host")).addFile ⟨"d/a"⟩ (Text.encodeUtf8 "host: cache")
    let r := (Record.empty.write (.beside (.beside (.beside (.scalar .here)))) "cache").release
    ∃ source : Source, source.template.IsAt s.fileSystem ⟨"t"⟩ ∧
      (source.extractFirst s.fileSystem ⟨"/mock"⟩ ["d/a"]).run = some ⟨⟨"/mock/d/a"⟩, r⟩ ∧
      (runExtract s.fileSystem source.sizeLimit ⟨"t"⟩ .json [⟨"/mock/d/a"⟩]).run.output =
        some (Format.json.render (.sequence [documentReport ⟨"/mock/d/a"⟩ r])) ∧
      (source.extractFirst s.fileSystem ⟨"/mock"⟩ ["d"]).run = none ∧
      (runExtract s.fileSystem source.sizeLimit ⟨"t"⟩ .json [⟨"/mock/d"⟩]).run.codeWhen true =
        .failure := by
  intro s r
  have htemplate : (Template.ofBytes (Text.encodeUtf8 "host: all.redis.host")).toOption.map
      (fun t => (t.extract (Text.encodeUtf8 "host: cache")).toOption) = some (some r) := by
    decide +kernel
  have hread : (s.fileSystem.read ⟨"t"⟩).run = .ok (Text.encodeUtf8 "host: all.redis.host") := by
    decide +kernel
  have hentries : s.entry? ⟨"/mock/d/a"⟩ = some (.file (Text.encodeUtf8 "host: cache")) ∧
      (Text.encodeUtf8 "host: cache").length ≤ 64 ∧ s.entry? ⟨"/mock/d"⟩ = some .directory := by
    decide +kernel
  obtain ⟨t, ht, hr⟩ := Option.map_eq_some_iff.mp htemplate
  obtain ⟨hfile, hsize, hdirectory⟩ := hentries
  have hat : t.IsAt s.fileSystem ⟨"t"⟩ := ⟨_, hread, toOption_eq_some_iff.mp ht⟩
  have hjoin : Path.join ⟨"/mock"⟩ ⟨"d/a"⟩ = ⟨"/mock/d/a"⟩ ∧
      Path.join ⟨"/mock"⟩ ⟨"d"⟩ = ⟨"/mock/d"⟩ := by decide
  obtain ⟨-, houtput, -, htaken⟩ :=
    runExtract_agrees s ⟨"cache", 0, t, 64⟩ ⟨"t"⟩ ⟨"/mock"⟩ "d/a" .json hat
  obtain ⟨hcode, -, -, hpassed⟩ :=
    runExtract_agrees s ⟨"cache", 0, t, 64⟩ ⟨"t"⟩ ⟨"/mock"⟩ "d" .json hat
  rw [hjoin.1] at houtput htaken
  rw [hjoin.2] at hcode hpassed
  have hfound := (htaken ⟨⟨"/mock/d/a"⟩, r⟩).mpr
    ⟨rfl, _, hfile, hsize, toOption_eq_some_iff.mp hr⟩
  have hnone := Option.eq_none_iff_forall_ne_some.mpr fun x hx => by
    obtain ⟨-, content, hcontent, -⟩ := (hpassed x).mp hx
    cases hdirectory.symm.trans hcontent
  rw [hfound] at houtput
  rw [hnone] at hcode
  exact ⟨⟨"cache", 0, t, 64⟩, hat, hfound, houtput, hnone, hcode⟩

end Command
end ServiceAtlas
