import ServiceAtlas.Extract.Walk
import ServiceAtlas.Files.Access
import ServiceAtlas.Sources.Basic

/-!
# Sources ready to be used

A source with its template compiled. Of its candidate documents the first is taken that is a file,
is not too large, can be read and is extracted without an error; the others are passed over.
-/
namespace ServiceAtlas

structure Source where
  name : String
  weight : Int
  template : Template
  sizeLimit : Nat

/-- A record and the document that it was extracted from. -/
structure Extraction where
  path : Files.Path
  record : Record

namespace Source

inductive LoadError where
  | unreadable (name : String) (path : Files.Path) (error : Files.FileError)
  | invalid (name : String) (path : Files.Path) (error : ExtractError)
deriving DecidableEq, Repr

def LoadError.message : LoadError → String
  | .unreadable name path error =>
    "Failed to read template " ++ path.quoted ++ " for source " ++ name ++ ": " ++ error.message
  | .invalid name path error =>
    "Template " ++ path.quoted ++ " for source " ++ name ++ " is invalid: " ++ error.message

variable {m : Type → Type} [Monad m]

def load (fs : Files.FileSystem m) (sizeLimit : Nat) (entry : SourceEntry) :
    m (Except LoadError Source) := do
  match ← fs.read entry.template with
  | .error error => return .error (.unreadable entry.name entry.template error)
  | .ok bytes =>
    match Template.ofBytes bytes with
    | .error error => return .error (.invalid entry.name entry.template error)
    | .ok template =>
      return .ok { name := entry.name, weight := entry.weight, template, sizeLimit }

/-- The record of a document, unless it is to be passed over. -/
def attempt (s : Source) (fs : Files.FileSystem m) (path : Files.Path) : m (Option Record) := do
  if ← fs.isFile path then
    match ← fs.info path with
    | .error _ => return none
    | .ok info =>
      if s.sizeLimit < info.size then return none
      else
        match ← fs.read path with
        | .error _ => return none
        | .ok bytes => return (s.template.extract bytes).toOption
  else return none

/-- The first extraction among candidate documents below a root. -/
def extractFirst (s : Source) (fs : Files.FileSystem m) (root : Files.Path) :
    List String → m (Option Extraction)
  | [] => return none
  | candidate :: candidates => do
    let path := root.join ⟨candidate⟩
    match ← s.attempt fs path with
    | some record => return some ⟨path, record⟩
    | none => s.extractFirst fs root candidates

end Source
end ServiceAtlas
