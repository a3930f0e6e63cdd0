import ServiceAtlas.Command.Basic
import ServiceAtlas.Sources.Load
import ServiceAtlas.Sources.Source

/-!
# Scans

Each source is a matter of its own: one whose template is unusable adds an error line, and one
without a document to extract is passed over in silence.
-/
namespace ServiceAtlas.Command

variable {m : Type → Type} [Monad m]

/-- A source with what came of it; one may be in order and still find no document. -/
structure SourceResult where
  entry : SourceEntry
  result : Except Source.LoadError (Option Extraction)

namespace SourceResult

def report? (r : SourceResult) : Option Datum :=
  match r.result with
  | .ok (some extraction) =>
    some (.mapping [("source", .text r.entry.name), ("weight", .integer r.entry.weight),
      ("path", .text extraction.path.text), ("record", extraction.record.datum)])
  | _ => none

def complaint? (r : SourceResult) : Option String :=
  match r.result with
  | .error error => some error.message
  | .ok _ => none

end SourceResult

def scanSource (fs : Files.FileSystem m) (sizeLimit : Nat) (root : Files.Path)
    (entry : SourceEntry) : m SourceResult := do
  match ← Source.load fs sizeLimit entry with
  | .error error => return ⟨entry, .error error⟩
  | .ok source => return ⟨entry, .ok (← source.extractFirst fs root entry.paths)⟩

def noSourcesFile : String := "no sources file, pass --sources or set STACKMAP_SOURCES"

/-- The root of a scan where no other is asked for. -/
def standardRoot : Files.Path := ⟨"."⟩

def runScan (fs : Files.FileSystem m) (settings : Settings) (sources : Option Files.Path)
    (format : Format) (root : Option Files.Path) : m Outcome := do
  match sources.or settings.sourcesFile with
  | none => return .refused noSourcesFile .unusable
  | some path =>
    match ← Sources.load fs path with
    | .error error => return .refused error.message .unusable
    | .ok sources =>
      let results ← sources.entries.mapM
        (scanSource fs settings.sizeLimit (root.getD standardRoot))
      return .ofBatch (format.render (.sequence (results.filterMap SourceResult.report?)))
        (results.filterMap SourceResult.complaint?)

end ServiceAtlas.Command
