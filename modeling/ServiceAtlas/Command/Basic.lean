import ServiceAtlas.Datum.Json
import ServiceAtlas.Datum.Yaml
import ServiceAtlas.Files.Path

/-! The commands of the program and what comes of one. -/
namespace ServiceAtlas

inductive Format where
  | yaml
  | json
deriving DecidableEq, Repr

namespace Format

def word : Format → String
  | yaml => "yaml"
  | json => "json"

def all : List Format := [yaml, json]

def ofWord? (text : String) : Option Format := all.find? fun format => format.word = text

def render : Format → Datum → String
  | yaml => Yaml.document
  | json => Json.document

end Format

inductive Command where
  /-- Compiles a template and counts its leaves. -/
  | check (template : Files.Path)
  /-- Extracts a record from each document. -/
  | extract (template : Files.Path) (format : Format) (documents : List Files.Path)
  /-- Tries every configured source below a root. -/
  | scan (sources : Option Files.Path) (format : Format) (root : Option Files.Path)
deriving DecidableEq, Repr

inductive ExitCode where
  | success
  | failure
  | unusable
deriving DecidableEq, Repr

def ExitCode.number : ExitCode → Nat
  | success => 0
  | failure => 1
  | unusable => 2

/-- What a command wants written, if anything, the lines that it reports as errors, and its code if
the writing works. -/
structure Outcome where
  output : Option String
  errors : List String
  code : ExitCode
deriving DecidableEq, Repr

namespace Outcome

/-- Nothing is written after a complaint that ends the command. -/
def refused (complaint : String) (code : ExitCode) : Outcome :=
  { output := none, errors := ["Error: " ++ complaint], code }

/-- The outcome of a batch: its report, and an error line for each member that failed. -/
def ofBatch (output : String) (complaints : List String) : Outcome where
  output := some output
  errors := complaints.map ("Error: " ++ ·)
  code := if complaints.isEmpty then .success else .failure

/-- The code once it is known whether the output could be written. -/
def codeWhen (o : Outcome) (written : Bool) : ExitCode :=
  if o.output.isSome && !written then .failure else o.code

end Outcome
end ServiceAtlas
