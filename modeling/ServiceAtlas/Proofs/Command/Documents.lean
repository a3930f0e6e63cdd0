import Mathlib.Data.List.Basic
import ServiceAtlas.Command.Extract
import ServiceAtlas.Files.Store
import ServiceAtlas.Proofs.Extract.Files

/-!
# Reports of documents

On files that stay as they are while a command runs, each document of an extraction is a matter
between it and the template. The report of a document is the same among any others, and no document
that fails, for whatever reason, changes what is said of the rest.
-/
namespace ServiceAtlas

open Files (FileSystem Path)

namespace Outcome

@[simp] theorem codeWhen_refused (complaint : String) (code : ExitCode) (written : Bool) :
    (refused complaint code).codeWhen written = code := by
  simp [codeWhen, refused]

/-- A batch succeeds when its report is written and no member has failed. -/
theorem codeWhen_ofBatch (output : String) (complaints : List String) (written : Bool) :
    (ofBatch output complaints).codeWhen written =
      if written ∧ complaints = [] then .success else .failure := by
  cases written <;> cases complaints <;> rfl

end Outcome

namespace Command

variable {fs : FileSystem Id} {sizeLimit : Nat} {template path : Path} {t : Template}

theorem loadTemplate_eq_ok_iff : (loadTemplate fs path).run = .ok t ↔ t.IsAt fs path := by
  rw [loadTemplate, Template.IsAt, Id.run_bind]
  cases (fs.read path).run with
  | error error => simp
  | ok bytes => simp [mapError_eq_ok_iff]

theorem extractDocument_eq_ok_iff {r : Record} :
    (extractDocument t sizeLimit fs path).run = .ok r ↔ t.Extracts sizeLimit fs path r := by
  rw [extractDocument, Template.Extracts, Id.run_bind]
  cases (fs.info path).run with
  | error error => simp
  | ok info =>
    dsimp only
    split
    · next hlarge => simp [Nat.not_le.mpr hlarge]
    · next hsize =>
      rw [Id.run_bind]
      cases (fs.read path).run with
      | error error => simp
      | ok bytes => simp [mapError_eq_ok_iff, Nat.not_lt.mp hsize]

/-- What is said of a document that was extracted; warnings are left out where there are none. -/
def documentReport (path : Path) (r : Record) : Datum :=
  .mapping ([("path", .text path.text), ("record", r.datum)]
    ++ if r.warnings.isEmpty then [] else [("warnings", .sequence (r.warnings.map .text))])

/-- The report of a document, if there is one. -/
def documentReport? (t : Template) (sizeLimit : Nat) (fs : FileSystem Id) (path : Path) :
    Option Datum :=
  (extractDocument t sizeLimit fs path).run.toOption.map (documentReport path)

theorem documentReport?_eq_some_iff {d : Datum} :
    documentReport? t sizeLimit fs path = some d ↔
      ∃ r, t.Extracts sizeLimit fs path r ∧ documentReport path r = d := by
  rw [documentReport?, Option.map_eq_some_iff]
  simp only [toOption_eq_some_iff, extractDocument_eq_ok_iff]

/-- A report is settled by what the file system says of its document. -/
theorem documentReport?_congr {fs' : FileSystem Id} (hinfo : fs'.info path = fs.info path)
    (hread : fs'.read path = fs.read path) :
    documentReport? t sizeLimit fs' path = documentReport? t sizeLimit fs path := by
  refine Option.ext fun d => ?_
  rw [documentReport?_eq_some_iff, documentReport?_eq_some_iff]
  simp only [Template.extracts_congr hinfo hread]

/-- Without a template nothing is written. -/
theorem runExtract_of_forall_not_isAt (h : ∀ t : Template, ¬ t.IsAt fs template)
    (sizeLimit : Nat) (format : Format) (documents : List Path) :
    ∃ complaint, (runExtract fs sizeLimit template format documents).run =
      .refused complaint .unusable := by
  rw [runExtract, Id.run_bind]
  cases ht : (loadTemplate fs template).run with
  | error error => exact ⟨error.message, rfl⟩
  | ok t => exact absurd (loadTemplate_eq_ok_iff.mp ht) (h t)

/-- With a template each document is reported or complained of for itself. -/
theorem runExtract_of_isAt (h : t.IsAt fs template) (sizeLimit : Nat) (format : Format)
    (documents : List Path) :
    ∃ complaints, (runExtract fs sizeLimit template format documents).run =
        .ofBatch (format.render (.sequence (documents.filterMap (documentReport? t sizeLimit fs))))
          complaints ∧
      (complaints = [] ↔ ∀ path ∈ documents, (documentReport? t sizeLimit fs path).isSome) := by
  let results := documents.map fun path =>
    DocumentResult.mk path (extractDocument t sizeLimit fs path).run
  have hreports : results.filterMap DocumentResult.report? =
      documents.filterMap (documentReport? t sizeLimit fs) := by
    rw [List.filterMap_map]
    refine List.filterMap_congr fun path _ => ?_
    rw [Function.comp_apply, documentReport?, DocumentResult.report?]
    cases (extractDocument t sizeLimit fs path).run <;> rfl
  have hcomplaints : results.filterMap DocumentResult.complaint? = [] ↔
      ∀ path ∈ documents, (documentReport? t sizeLimit fs path).isSome := by
    rw [List.filterMap_eq_nil_iff, List.forall_mem_map]
    refine forall₂_congr fun path _ => ?_
    rw [documentReport?, DocumentResult.complaint?]
    cases (extractDocument t sizeLimit fs path).run <;> simp [Except.toOption]
  refine ⟨results.filterMap DocumentResult.complaint?, ?_, hcomplaints⟩
  rw [← hreports, runExtract, Id.run_bind, loadTemplate_eq_ok_iff.mpr h]
  simp [results]

/-- Without a template an extraction writes nothing and its code says that nothing could be done.
With one it writes a report for each document that can be extracted, in the order in which they are
asked for, and it fails if another document is among them or the output cannot be written. A report
depends on nothing but its document and the template, so that the documents of two extractions can
be extracted together, with the reports of both and the worse of their codes. -/
theorem runExtract_isolates (fs : FileSystem Id) (sizeLimit : Nat) (template : Path)
    (format : Format) :
    let run documents := (runExtract fs sizeLimit template format documents).run
    ((∀ t : Template, ¬ t.IsAt fs template) → ∀ documents, (run documents).output = none ∧
      ∀ written, (run documents).codeWhen written = .unusable) ∧
    ∀ t : Template, t.IsAt fs template → ∃ report? : Path → Option Datum,
      (∀ path d, report? path = some d ↔
        ∃ r, t.Extracts sizeLimit fs path r ∧ documentReport path r = d) ∧
      (∀ documents,
        (run documents).output =
          some (format.render (.sequence (documents.filterMap report?))) ∧
        ∀ written, (run documents).codeWhen written =
          if written ∧ ∀ path ∈ documents, (report? path).isSome then .success else .failure) ∧
      (∀ path fs' template', t.IsAt fs' template' → fs'.info path = fs.info path →
        fs'.read path = fs.read path →
          (runExtract fs' sizeLimit template' format [path]).run.output =
            some (format.render (.sequence (report? path).toList))) ∧
      ∀ documents others,
        (documents ++ others).filterMap report? =
          documents.filterMap report? ++ others.filterMap report? ∧
        ((run (documents ++ others)).codeWhen true).number =
          max ((run documents).codeWhen true).number ((run others).codeWhen true).number := by
  intro run
  constructor
  · intro h documents
    obtain ⟨complaint, hrun⟩ := runExtract_of_forall_not_isAt h sizeLimit format documents
    have hrun : run documents = .refused complaint .unusable := hrun
    rw [hrun]
    exact ⟨rfl, Outcome.codeWhen_refused complaint .unusable⟩
  · intro t ht
    have hcode (documents : List Path) (written : Bool) : (run documents).codeWhen written =
        if written ∧ ∀ path ∈ documents, (documentReport? t sizeLimit fs path).isSome then .success
        else .failure := by
      obtain ⟨complaints, hrun, hcomplaints⟩ := runExtract_of_isAt ht sizeLimit format documents
      have hrun : run documents = .ofBatch _ complaints := hrun
      rw [hrun, Outcome.codeWhen_ofBatch]
      simp only [hcomplaints]
    refine ⟨documentReport? t sizeLimit fs, fun path d => documentReport?_eq_some_iff, ?_, ?_, ?_⟩
    · intro documents
      obtain ⟨complaints, hrun, -⟩ := runExtract_of_isAt ht sizeLimit format documents
      exact ⟨congrArg Outcome.output hrun, hcode documents⟩
    · intro path fs' template' ht' hinfo hread
      obtain ⟨complaints, hrun, -⟩ := runExtract_of_isAt ht' sizeLimit format [path]
      rw [hrun, List.filterMap_cons, documentReport?_congr hinfo hread]
      cases documentReport? t sizeLimit fs path <;> rfl
    · intro documents others
      refine ⟨List.filterMap_append, ?_⟩
      simp only [hcode, List.forall_mem_append, true_and]
      -- The code of the whole is that of the part which fails, if one does.
      by_cases h : ∀ path ∈ documents, (documentReport? t sizeLimit fs path).isSome
      · simp only [eq_true h, true_and, if_true]
        exact (Nat.max_eq_right (Nat.zero_le _)).symm
      · simp only [eq_false h, false_and, if_false]
        split <;> rfl

/-- A document is asked for twice, around one whose port is no number and which is no template. -/
theorem runExtract_isolates_caches :
    let file (s : Files.Store) (name text : String) := s.addFile ⟨name⟩ (Text.encodeUtf8 text)
    let s := file (file (file (.empty Files.Store.standardRoot) "redis.yaml"
      "host: all.redis.host\nport: all.redis.port") "good.yaml" "host: cache") "bad.yaml" "port: p"
    let r := (Record.empty.write (.beside (.beside (.beside (.scalar .here)))) "cache").release
    let documents : List Path := [⟨"good.yaml"⟩, ⟨"bad.yaml"⟩, ⟨"good.yaml"⟩]
    let run template := (runExtract s.fileSystem 64 template .json documents).run
    (∃ t : Template, t.IsAt s.fileSystem ⟨"redis.yaml"⟩) ∧
      (run ⟨"redis.yaml"⟩).output = some (Format.json.render (.sequence
        [documentReport ⟨"good.yaml"⟩ r, documentReport ⟨"good.yaml"⟩ r])) ∧
      (run ⟨"redis.yaml"⟩).codeWhen true = .failure ∧
      (∀ t : Template, ¬ t.IsAt s.fileSystem ⟨"bad.yaml"⟩) ∧ (run ⟨"bad.yaml"⟩).output = none := by
  intro file s r documents run
  have htemplate : (Template.ofBytes (Text.encodeUtf8
        "host: all.redis.host\nport: all.redis.port")).toOption.map (fun t =>
        ((t.extract (Text.encodeUtf8 "host: cache")).toOption,
          (t.extract (Text.encodeUtf8 "port: p")).toOption)) = some (some r, none) := by
    decide +kernel
  have hbad : (Template.ofBytes (Text.encodeUtf8 "port: p")).toOption.isNone := by decide +kernel
  have hreads : (s.fileSystem.read ⟨"redis.yaml"⟩).run =
        .ok (Text.encodeUtf8 "host: all.redis.host\nport: all.redis.port") ∧
      (s.fileSystem.read ⟨"good.yaml"⟩).run = .ok (Text.encodeUtf8 "host: cache") ∧
      (s.fileSystem.read ⟨"bad.yaml"⟩).run = .ok (Text.encodeUtf8 "port: p") := by decide +kernel
  have hinfo : (s.fileSystem.info ⟨"good.yaml"⟩).run = .ok ⟨11, .file⟩ := by decide +kernel
  have hnot : ∀ t : Template, ¬ t.IsAt s.fileSystem ⟨"bad.yaml"⟩ := by
    rintro t ⟨bytes, hread, ht⟩
    obtain rfl := Except.ok.inj (hreads.2.2.symm.trans hread)
    rw [ht] at hbad
    cases hbad
  obtain ⟨t, ht, hresults⟩ := Option.map_eq_some_iff.mp htemplate
  obtain ⟨hgood, hfails⟩ := Prod.mk.inj hresults
  have hat : t.IsAt s.fileSystem ⟨"redis.yaml"⟩ :=
    ⟨_, hreads.1, toOption_eq_some_iff.mp ht⟩
  obtain ⟨report?, hreport, hrun, -⟩ :=
    (runExtract_isolates s.fileSystem 64 ⟨"redis.yaml"⟩ .json).2 t hat
  have hsome : report? ⟨"good.yaml"⟩ = some (documentReport ⟨"good.yaml"⟩ r) :=
    (hreport _ _).mpr ⟨r, ⟨_, _, hinfo, by decide, hreads.2.1, toOption_eq_some_iff.mp hgood⟩, rfl⟩
  have hnone : report? ⟨"bad.yaml"⟩ = none := by
    refine Option.eq_none_iff_forall_ne_some.mpr fun d hd => ?_
    obtain ⟨r', hr', -⟩ := (hreport _ d).mp hd
    exact Template.not_extracts_of_toOption_eq_none hreads.2.2 hfails hr'
  obtain ⟨houtput, hcode⟩ := hrun documents
  refine ⟨⟨t, hat⟩, ?_, ?_, hnot, ?_⟩
  · rw [List.filterMap_cons_some hsome, List.filterMap_cons_none hnone,
      List.filterMap_cons_some hsome] at houtput
    exact houtput
  · rw [hcode]
    simp [documents, hnone]
  · exact ((runExtract_isolates s.fileSystem 64 ⟨"bad.yaml"⟩ .json).1 hnot documents).1

end Command
end ServiceAtlas
