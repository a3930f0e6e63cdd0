import ServiceAtlas.Command.Check
import ServiceAtlas.Extract.Walk

/-!
# Extraction of documents

Each document is a matter of its own: one that fails adds an error line, and takes nothing from the
reports of the others.
-/
namespace ServiceAtlas.Command

variable {m : Type → Type} [Monad m]

inductive DocumentError where
  | unreadable (error : Files.FileError)
  | tooLarge (size limit : Nat)
  | notExtracted (error : ExtractError)
deriving DecidableEq, Repr

def DocumentError.message : DocumentError → String
  | .unreadable error => error.fullMessage
  | .tooLarge size limit =>
    "document is " ++ toString size ++ " bytes, larger than the " ++ toString limit ++ " byte limit"
  | .notExtracted error => error.fullMessage

def extractDocument (t : Template) (sizeLimit : Nat) (fs : Files.FileSystem m) (path : Files.Path) :
    m (Except DocumentError Record) := do
  match ← fs.info path with
  | .error error => return .error (.unreadable error)
  | .ok info =>
    if sizeLimit < info.size then return .error (.tooLarge info.size sizeLimit)
    else
      match ← fs.read path with
      | .error error => return .error (.unreadable error)
      | .ok bytes => return (t.extract bytes).mapError .notExtracted

/-- A document with what came of it. -/
structure DocumentResult where
  path : Files.Path
  result : Except DocumentError Record

namespace DocumentResult

def report? (r : DocumentResult) : Option Datum :=
  match r.result with
  | .error _ => none
  | .ok record =>
    some (.mapping ([("path", .text r.path.text), ("record", record.datum)]
      ++ if record.warnings.isEmpty then []
        else [("warnings", .sequence (record.warnings.map .text))]))

def complaint? (r : DocumentResult) : Option String :=
  match r.result with
  | .error error => some (r.path.text ++ ": " ++ error.message)
  | .ok _ => none

end DocumentResult

def runExtract (fs : Files.FileSystem m) (sizeLimit : Nat) (template : Files.Path) (format : Format)
    (documents : List Files.Path) : m Outcome := do
  match ← loadTemplate fs template with
  | .error error => return .refused error.message .unusable
  | .ok t =>
    let results ← documents.mapM fun path => do
      return DocumentResult.mk path (← extractDocument t sizeLimit fs path)
    return .ofBatch (format.render (.sequence (results.filterMap DocumentResult.report?)))
      (results.filterMap DocumentResult.complaint?)

end ServiceAtlas.Command
