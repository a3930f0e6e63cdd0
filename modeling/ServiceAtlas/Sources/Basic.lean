import ServiceAtlas.Files.Path
import ServiceAtlas.Settings.Basic
import ServiceAtlas.Text.Blank

/-!
# Configured sources

A source pairs a template with the documents that it may be tried on. The names of the sources are
what they are found by: none is blank and no two are equal.
-/
namespace ServiceAtlas

structure SourceEntry where
  name : String
  template : Files.Path
  weight : Int
  /-- The candidate documents, in the order in which they are tried. -/
  paths : List String
deriving DecidableEq, Repr

structure Sources where
  entries : List SourceEntry
deriving DecidableEq, Repr

namespace Sources

inductive Fault where
  | blankName
  | duplicateName (name : String)
  | noTemplate (name : String)
deriving DecidableEq, Repr

def Fault.message : Fault → String
  | .blankName => Settings.refusal "Source name cannot be empty"
  | .duplicateName name => Settings.refusal ("Duplicate source name: " ++ name)
  | .noTemplate name => Settings.refusal ("Source " ++ name ++ " has no template")

/-- Checks entries that come behind others with the names `seen`. -/
def check (seen : List String) : List SourceEntry → Except Fault Unit
  | [] => .ok ()
  | entry :: entries =>
    if Text.isAllBlank entry.name.toList then .error .blankName
    else if entry.name ∈ seen then .error (.duplicateName entry.name)
    else if entry.template.isEmpty then .error (.noTemplate entry.name)
    else check (entry.name :: seen) entries

def validate (s : Sources) : Except Fault Unit := check [] s.entries

def get? (s : Sources) (name : String) : Option SourceEntry :=
  s.entries.find? fun entry => entry.name = name

/-- The sources with their templates seen from a directory. -/
def within (s : Sources) (base : Files.Path) : Sources :=
  ⟨s.entries.map fun entry => { entry with template := base.join entry.template }⟩

end Sources
end ServiceAtlas
