import ServiceAtlas.Files.Access
import ServiceAtlas.Sources.Basic
import ServiceAtlas.Yaml.Fields

/-! Sources read from a file. A template that is not absolute lies beside the file. -/
namespace ServiceAtlas.Sources

inductive LoadError where
  | unreadable (path : Files.Path) (error : Files.FileError)
  | malformed (error : Yaml.Error)
  | invalid (fault : Fault)
deriving DecidableEq, Repr

def LoadError.message : LoadError → String
  | .unreadable path error => "Failed to read " ++ path.quoted ++ ": " ++ error.message
  | .malformed error => "Failed to parse sources: " ++ error.message
  | .invalid fault => fault.message

open Yaml (Node Reading)

def readEntry (d : Yaml.Document) (node : Node) : Reading SourceEntry := do
  let fields ← d.fields ["name", "template", "weight", "paths"] node
  let name ← Yaml.Document.required "name" d.text fields
  let template ← Yaml.Document.required "template" d.text fields
  let weight ← Yaml.Document.optional "weight" 0 d.integer fields
  let paths ← Yaml.Document.optional "paths" [] (fun node => do (← d.items node).mapM d.text) fields
  return { name, template := ⟨template⟩, weight, paths }

def readRoot (d : Yaml.Document) : Reading Sources := do
  let fields ← d.fields ["sources"] d.root
  let items ← Yaml.Document.required "sources" d.items fields
  return ⟨← items.mapM (readEntry d)⟩

def ofDocument (d : Yaml.Document) : Except Yaml.Error Sources := (readRoot d).run' 0

def ofText (text : String) : Except LoadError Sources :=
  match Yaml.Document.ofText text >>= ofDocument with
  | .error error => .error (.malformed error)
  | .ok sources =>
    match sources.validate with
    | .error fault => .error (.invalid fault)
    | .ok () => .ok sources

/-- The sources of a text found at a path. -/
def ofFile (path : Files.Path) (text : String) : Except LoadError Sources :=
  (ofText text).map fun sources =>
    match path.parent? with
    | some base => sources.within base
    | none => sources

def load {m : Type → Type} [Monad m] (fs : Files.FileSystem m) (path : Files.Path) :
    m (Except LoadError Sources) := do
  match ← fs.readText path with
  | .error error => return .error (.unreadable path error)
  | .ok text => return ofFile path text

end ServiceAtlas.Sources
