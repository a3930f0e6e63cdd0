import Mathlib.Data.List.Basic
import ServiceAtlas.Command.Scan
import ServiceAtlas.Files.Store
import ServiceAtlas.Proofs.Command.Documents
import ServiceAtlas.Proofs.Sources.Candidates
import ServiceAtlas.Proofs.Sources.Load

/-!
# Reports of sources

Once the sources of a scan are loaded each is a matter of its own. What is said of one is what a
scan of it alone would say, whether the others find a document, find none or cannot be loaded.
-/
namespace ServiceAtlas

open Files (FileSystem Path)

namespace SourceEntry

/-- The source of the entry can be loaded, and finds a document below the root. -/
def Finds (entry : SourceEntry) (fs : FileSystem Id) (sizeLimit : Nat) (root : Path)
    (x : Extraction) : Prop :=
  ∃ t : Template, t.IsAt fs entry.template ∧
    (Source.mk entry.name entry.weight t sizeLimit).Finds fs root entry.paths x

/-- Two file systems that say the same of all that a source is concerned with. -/
def AgreesAt (entry : SourceEntry) (fs fs' : FileSystem Id) (root : Path) : Prop :=
  fs'.read entry.template = fs.read entry.template ∧
    ∀ candidate ∈ entry.paths, fs.AgreesAt fs' (root.join ⟨candidate⟩)

end SourceEntry

namespace Command

variable {fs fs' : FileSystem Id} {settings : Settings} {flag root : Option Path} {format : Format}
  {sizeLimit : Nat} {base path : Path} {entry : SourceEntry} {s : Sources}

/-- What is said of a source and the document that it found. -/
def sourceReport (entry : SourceEntry) (x : Extraction) : Datum :=
  .mapping [("source", .text entry.name), ("weight", .integer entry.weight),
    ("path", .text x.path.text), ("record", x.record.datum)]

/-- The report of a source, if there is one. -/
def sourceReport? (fs : FileSystem Id) (sizeLimit : Nat) (base : Path) (entry : SourceEntry) :
    Option Datum :=
  (scanSource fs sizeLimit base entry).run.report?

theorem sourceReport?_eq_some_iff {d : Datum} :
    sourceReport? fs sizeLimit base entry = some d ↔
      ∃ x, entry.Finds fs sizeLimit base x ∧ sourceReport entry x = d := by
  rw [sourceReport?, scanSource, Id.run_bind]
  cases hload : (Source.load fs sizeLimit entry).run with
  | error error =>
    have hnone (x : Extraction) : ¬ entry.Finds fs sizeLimit base x := by
      rintro ⟨t, ht, -⟩
      rw [Source.load_eq_ok_iff.mpr ⟨t, ht, rfl⟩] at hload
      cases hload
    simp [SourceResult.report?, hnone]
  | ok source =>
    obtain ⟨t, ht, rfl⟩ := Source.load_eq_ok_iff.mp hload
    have hfinds (x : Extraction) : entry.Finds fs sizeLimit base x ↔
        (Source.mk entry.name entry.weight t sizeLimit).Finds fs base entry.paths x := by
      constructor
      · rintro ⟨t', ht', hx⟩
        rwa [ht.unique ht']
      · exact fun hx => ⟨t, ht, hx⟩
    simp only [hfinds, ← Source.extractFirst_eq_some_iff]
    rw [Id.run_bind]
    cases (Source.extractFirst _ fs base entry.paths).run <;>
      simp [SourceResult.report?, sourceReport]

theorem scanSource_complaint?_eq_none_iff :
    (scanSource fs sizeLimit base entry).run.complaint? = none ↔
      ∃ t : Template, t.IsAt fs entry.template := by
  rw [scanSource, Id.run_bind]
  cases hload : (Source.load fs sizeLimit entry).run with
  | error error =>
    simp only [SourceResult.complaint?, Id.run_pure, reduceCtorEq, false_iff]
    rintro ⟨t, ht⟩
    rw [Source.load_eq_ok_iff.mpr ⟨t, ht, rfl⟩] at hload
    cases hload
  | ok source =>
    obtain ⟨t, ht, -⟩ := Source.load_eq_ok_iff.mp hload
    simpa [SourceResult.complaint?] using ⟨t, ht⟩

theorem sourceReport?_congr (h : entry.AgreesAt fs fs' base) :
    sourceReport? fs' sizeLimit base entry = sourceReport? fs sizeLimit base entry := by
  refine Option.ext fun d => ?_
  rw [sourceReport?_eq_some_iff, sourceReport?_eq_some_iff]
  simp only [SourceEntry.Finds, Template.isAt_congr h.1, Source.finds_congr h.2]

/-- Without sources nothing is written. -/
theorem runScan_of_forall_not_isAt
    (h : ∀ path ∈ flag.or settings.sourcesFile, ∀ s : Sources, ¬ s.IsAt fs path) :
    ∃ complaint, (runScan fs settings flag format root).run = .refused complaint .unusable := by
  rw [runScan]
  cases hnamed : flag.or settings.sourcesFile with
  | none => exact ⟨noSourcesFile, rfl⟩
  | some path =>
    rw [Id.run_bind]
    cases hload : (Sources.load fs path).run with
    | error error => exact ⟨error.message, rfl⟩
    | ok s => exact absurd (Sources.load_eq_ok_iff.mp hload) (h path hnamed s)

/-- With sources each is reported or complained of for itself. -/
theorem runScan_of_isAt (hnamed : path ∈ flag.or settings.sourcesFile) (hs : s.IsAt fs path) :
    ∃ complaints, (runScan fs settings flag format root).run =
        .ofBatch (format.render (.sequence (s.entries.filterMap
          (sourceReport? fs settings.sizeLimit (root.getD standardRoot))))) complaints ∧
      (complaints = [] ↔ ∀ entry ∈ s.entries, ∃ t : Template, t.IsAt fs entry.template) := by
  let results := s.entries.map fun entry =>
    (scanSource fs settings.sizeLimit (root.getD standardRoot) entry).run
  have hreports : results.filterMap SourceResult.report? =
      s.entries.filterMap (sourceReport? fs settings.sizeLimit (root.getD standardRoot)) :=
    List.filterMap_map ..
  have hcomplaints : results.filterMap SourceResult.complaint? = [] ↔
      ∀ entry ∈ s.entries, ∃ t : Template, t.IsAt fs entry.template := by
    rw [List.filterMap_eq_nil_iff, List.forall_mem_map]
    exact forall₂_congr fun entry _ => scanSource_complaint?_eq_none_iff
  refine ⟨results.filterMap SourceResult.complaint?, ?_, hcomplaints⟩
  rw [← hreports, runScan, Option.mem_def.mp hnamed]
  dsimp only
  rw [Id.run_bind, Sources.load_eq_ok_iff.mpr hs]
  simp [results]

/-- A scan writes nothing and says that nothing could be done if no file of sources is named or none
can be loaded from it, and only then. Otherwise it writes a report for each source that finds a
document, in the order of the file, and it fails if the template of a source cannot be loaded or the
output cannot be written. A source that finds none is passed over. A scan of one of the sources
alone says of it what is said among the others. -/
theorem runScan_isolates (fs : FileSystem Id) (settings : Settings) (flag : Option Path)
    (format : Format) (root : Option Path) :
    let run := (runScan fs settings flag format root).run
    let base := root.getD standardRoot
    (run.output = none ∧ (∀ written, run.codeWhen written = .unusable) ↔
      ∀ path ∈ flag.or settings.sourcesFile, ∀ s : Sources, ¬ s.IsAt fs path) ∧
    ∀ path ∈ flag.or settings.sourcesFile, ∀ s : Sources, s.IsAt fs path →
      ∃ report? : SourceEntry → Option Datum,
        (∀ entry d, report? entry = some d ↔
          ∃ x, entry.Finds fs settings.sizeLimit base x ∧ sourceReport entry x = d) ∧
        run.output = some (format.render (.sequence (s.entries.filterMap report?))) ∧
        (∀ written,
          (run.codeWhen written = .success ↔
            written ∧ ∀ entry ∈ s.entries, ∃ t : Template, t.IsAt fs entry.template) ∧
          (run.codeWhen written = .failure ↔
            ¬ written ∨ ∃ entry ∈ s.entries, ∀ t : Template, ¬ t.IsAt fs entry.template)) ∧
        ∀ entry ∈ s.entries, ∀ fs' settings' flag', ∀ path' ∈ flag'.or settings'.sourcesFile,
          (Sources.mk [entry]).IsAt fs' path' → settings'.sizeLimit = settings.sizeLimit →
            entry.AgreesAt fs fs' base →
              (runScan fs' settings' flag' format root).run.output =
                some (format.render (.sequence (report? entry).toList)) := by
  intro run base
  constructor
  · constructor
    · rintro ⟨hnone, -⟩ path hpath s hs
      obtain ⟨complaints, hrun, -⟩ := runScan_of_isAt hpath hs
      have hrun : run = .ofBatch _ complaints := hrun
      rw [hrun] at hnone
      cases hnone
    · intro h
      obtain ⟨complaint, hrun⟩ := runScan_of_forall_not_isAt h
      have hrun : run = .refused complaint .unusable := hrun
      rw [hrun]
      exact ⟨rfl, Outcome.codeWhen_refused complaint .unusable⟩
  · intro path hpath s hs
    obtain ⟨complaints, hrun, hcomplaints⟩ := runScan_of_isAt hpath hs
    refine ⟨sourceReport? fs settings.sizeLimit base, fun entry d => sourceReport?_eq_some_iff,
      congrArg Outcome.output hrun, fun written => ?_, ?_⟩
    · have hrun : run = .ofBatch _ complaints := hrun
      have hfailed : (∃ entry ∈ s.entries, ∀ t : Template, ¬ t.IsAt fs entry.template) ↔
          complaints ≠ [] := by
        simp [hcomplaints]
      rw [hrun, Outcome.codeWhen_ofBatch, ← hcomplaints, hfailed]
      cases written <;> by_cases h : complaints = [] <;> simp [h]
    · intro entry _ fs' settings' flag' path' hpath' hs' hlimit hagrees
      obtain ⟨complaints', hrun', -⟩ := runScan_of_isAt hpath' hs'
      rw [hrun', List.filterMap_cons, hlimit, sourceReport?_congr hagrees]
      cases sourceReport? fs settings.sizeLimit base entry <;> rfl

/-- A source without its template, one that finds its second candidate and one that finds none. The
second is scanned alone as well. -/
theorem runScan_isolates_caches :
    let file (s : Files.Store) (name text : String) := s.addFile ⟨name⟩ (Text.encodeUtf8 text)
    let cache := "- name: cache\n  template: t\n  weight: 4\n  paths: [b, a]\n"
    let several := "sources:\n- name: gone\n  template: g\n" ++ cache ++
      "- name: idle\n  template: t\n  paths: [b]"
    let s := file (file (file (file (file (.empty Files.Store.standardRoot) "t"
      "host: all.redis.host\nport: all.redis.port") "a" "host: cache") "b" "port: p")
      "several" several) "alone" ("sources:\n" ++ cache)
    let r := (Record.empty.write (.beside (.beside (.beside (.scalar .here)))) "cache").release
    let report := sourceReport ⟨"cache", ⟨"/mock/t"⟩, 4, ["b", "a"]⟩ ⟨⟨"/mock/a"⟩, r⟩
    let run name := (runScan s.fileSystem .standard (some ⟨name⟩) .json (some ⟨"/mock"⟩)).run
    (run "/mock/several").output = some (Format.json.render (.sequence [report])) ∧
      (run "/mock/several").codeWhen true = .failure ∧
      (run "/mock/alone").output = some (Format.json.render (.sequence [report])) ∧
      (run "/mock/none").output = none ∧ (run "/mock/none").codeWhen true = .unusable := by
  intro file cache several s r report run
  have htemplate : (Template.ofBytes (Text.encodeUtf8
        "host: all.redis.host\nport: all.redis.port")).toOption.map (fun t =>
        ((t.extract (Text.encodeUtf8 "host: cache")).toOption,
          (t.extract (Text.encodeUtf8 "port: p")).toOption)) = some (some r, none) := by
    decide +kernel
  have hreads : (s.fileSystem.read ⟨"/mock/t"⟩).run =
        .ok (Text.encodeUtf8 "host: all.redis.host\nport: all.redis.port") ∧
      (s.fileSystem.read ⟨"/mock/a"⟩).run = .ok (Text.encodeUtf8 "host: cache") ∧
      (s.fileSystem.read ⟨"/mock/b"⟩).run = .ok (Text.encodeUtf8 "port: p") ∧
      (s.fileSystem.read ⟨"/mock/g"⟩).run = .error (.fileNotFound ⟨"/mock/g"⟩) ∧
      (s.fileSystem.read ⟨"/mock/none"⟩).run = .error (.fileNotFound ⟨"/mock/none"⟩) := by
    decide +kernel
  have hinfo : (s.fileSystem.isFile ⟨"/mock/a"⟩).run = true ∧
      (s.fileSystem.info ⟨"/mock/a"⟩).run = .ok ⟨11, .file⟩ := by decide +kernel
  obtain ⟨hreadt, hreada, hreadb, hreadg, hreadnone⟩ := hreads
  let gone : SourceEntry := ⟨"gone", ⟨"/mock/g"⟩, 0, []⟩
  let entry : SourceEntry := ⟨"cache", ⟨"/mock/t"⟩, 4, ["b", "a"]⟩
  let idle : SourceEntry := ⟨"idle", ⟨"/mock/t"⟩, 0, ["b"]⟩
  have hseveral : (Sources.mk [gone, entry, idle]).IsAt s.fileSystem ⟨"/mock/several"⟩ := by
    refine ⟨Text.encodeUtf8 several, several.toList, ⟨[{ gone with template := ⟨"g"⟩ },
      { entry with template := ⟨"t"⟩ }, { idle with template := ⟨"t"⟩ }]⟩, ?_⟩
    rw [String.ofList_toList]
    decide +kernel
  have halone : (Sources.mk [entry]).IsAt s.fileSystem ⟨"/mock/alone"⟩ := by
    refine ⟨Text.encodeUtf8 ("sources:\n" ++ cache), ("sources:\n" ++ cache).toList,
      ⟨[{ entry with template := ⟨"t"⟩ }]⟩, ?_⟩
    rw [String.ofList_toList]
    decide +kernel
  have hnone (path : Path) (hpath : path ∈ some ⟨"/mock/none"⟩) (s' : Sources) :
      ¬ s'.IsAt s.fileSystem path := by
    obtain rfl := Option.some.inj hpath
    rintro ⟨bytes, -, -, hread, -⟩
    cases hreadnone.symm.trans hread
  obtain ⟨t, ht, hresults⟩ := Option.map_eq_some_iff.mp htemplate
  obtain ⟨hgood, hfails⟩ := Prod.mk.inj hresults
  have hat : t.IsAt s.fileSystem ⟨"/mock/t"⟩ := ⟨_, hreadt, toOption_eq_some_iff.mp ht⟩
  have hb (name : String) (weight : Int) (r' : Record) :
      ¬ (Source.mk name weight t Settings.standardSizeLimit).Accepts s.fileSystem
        (Path.join ⟨"/mock"⟩ ⟨"b"⟩) r' := by
    rw [show Path.join ⟨"/mock"⟩ ⟨"b"⟩ = ⟨"/mock/b"⟩ by decide]
    exact fun h => Template.not_extracts_of_toOption_eq_none hreadb hfails h.2
  obtain ⟨report?, hreport, houtput, hcode, hscan⟩ :=
    (runScan_isolates s.fileSystem .standard (some ⟨"/mock/several"⟩) .json
      (some ⟨"/mock"⟩)).2 _ rfl _ hseveral
  have hentry : report? entry = some report := by
    have hextracts : t.Extracts Settings.standardSizeLimit s.fileSystem ⟨"/mock/a"⟩ r :=
      ⟨_, _, hinfo.2, by decide, hreada, toOption_eq_some_iff.mp hgood⟩
    exact (hreport _ _).mpr ⟨⟨⟨"/mock/a"⟩, r⟩, ⟨t, hat, ["b"], "a", [], rfl,
      List.forall_mem_singleton.mpr (hb _ _), rfl, hinfo.1, hextracts⟩, rfl⟩
  have hg (t' : Template) : ¬ t'.IsAt s.fileSystem ⟨"/mock/g"⟩ :=
    Template.not_isAt_of_read_eq_error hreadg
  have hgone : report? gone = none := by
    refine Option.eq_none_iff_forall_ne_some.mpr fun d hd => ?_
    obtain ⟨-, ⟨t', ht', -⟩, -⟩ := (hreport _ d).mp hd
    exact hg t' ht'
  have hidle : report? idle = none := by
    refine Option.eq_none_iff_forall_ne_some.mpr fun d hd => ?_
    obtain ⟨x, ⟨t', ht', hx⟩, -⟩ := (hreport _ d).mp hd
    obtain rfl := hat.unique ht'
    obtain ⟨candidate, hmem, -, hx⟩ := hx.exists_accepts
    obtain rfl := List.mem_singleton.mp hmem
    exact hb _ _ _ hx
  have hrun (name : String) : run name =
      (runScan s.fileSystem .standard (some ⟨name⟩) .json (some ⟨"/mock"⟩)).run := rfl
  refine ⟨?_, ?_, ?_, ?_⟩
  · rw [hrun, houtput, List.filterMap_cons_none hgone, List.filterMap_cons_some hentry,
      List.filterMap_cons_none hidle, List.filterMap_nil]
  · rw [hrun]
    exact (hcode true).2.mpr (.inr ⟨gone, List.mem_cons_self, hg⟩)
  · have hagrees : entry.AgreesAt s.fileSystem s.fileSystem ⟨"/mock"⟩ :=
      ⟨rfl, fun _ _ => ⟨rfl, rfl, rfl⟩⟩
    have h := hscan entry (by simp) s.fileSystem .standard (some ⟨"/mock/alone"⟩) _ rfl halone rfl
      hagrees
    rw [hrun, h, hentry, Option.toList_some]
  · obtain ⟨h, hcode⟩ := (runScan_isolates s.fileSystem .standard (some ⟨"/mock/none"⟩) .json
      (some ⟨"/mock"⟩)).1.mpr hnone
    rw [hrun]
    exact ⟨h, hcode true⟩

end Command
end ServiceAtlas
