import ServiceAtlas.Leaf.Segment
import ServiceAtlas.Record.Path

/-!
# Setters

A compiled leaf: its weight, and what it does with a value. Every path is resolved while compiling.
-/
namespace ServiceAtlas

/-- What a segment does with a value. -/
inductive Action where
  | direct (target : Target)
  | preset (target : Target) (literal : String)
  | conditional (expected : Bool) (target : Target) (literal : String)
  | parse (targets : List Target) (separators : List Separator)
deriving DecidableEq

namespace Action

/-- Writes each part to the target in its place. A part without a target stops the writing. -/
def storeParts (all : List String) : List Target → List String → RecordM Unit
  | _, [] => pure ()
  | [], _ :: _ => throw (.tooManyValues all)
  | target :: targets, part :: parts => do
    target.store part
    storeParts all targets parts

def missingMessage (separator value : String) : String :=
  "separator '" ++ separator ++ "' not found in '" ++ value ++ "'"

/-- Notes a separator that was not found. -/
def noteMissing (value : String) : Option (List Char) → RecordM Unit
  | none => pure ()
  | some separator => modify fun r => r.warn (missingMessage (String.ofList separator) value)

def run (value : String) : Action → RecordM Unit
  | direct target => target.store value
  | preset target literal => target.store literal
  | conditional expected target literal =>
    match Text.readBool value with
    | none => throw (.condition value)
    | some actual => if actual = expected then target.store literal else pure ()
  | parse targets separators => do
    let split := Split.ofValue separators value.toList
    let parts := split.values.map String.ofList
    noteMissing value split.missing
    storeParts parts targets parts

end Action

structure Setter where
  weight : Int := 0
  actions : List Action := []
deriving DecidableEq

namespace Setter

def resolve (path : List Char) : Except ExtractError Target := Target.resolve (String.ofList path)

/-- The setter with one more segment. -/
def add (s : Setter) : Segment → Except ExtractError Setter
  | .weight n => .ok { s with weight := n }
  | .conditional expected path literal => do
    let target ← resolve path
    return { s with actions := s.actions ++ [.conditional expected target (String.ofList literal)] }
  | .parse pattern => do
    let targets ← pattern.paths.mapM resolve
    return { s with actions := s.actions ++ [.parse targets pattern.separators] }
  | .preset path literal => do
    let target ← resolve path
    return { s with actions := s.actions ++ [.preset target (String.ofList literal)] }
  | .direct path => do
    let target ← resolve path
    return { s with actions := s.actions ++ [.direct target] }

def addText (s : Setter) (segment : List Char) : Except ExtractError Setter :=
  Segment.read segment >>= s.add

def compile (leaf : String) : Except ExtractError Setter :=
  (Segment.texts leaf.toList).foldlM addText {}

/-- Runs every action on a value, up to the first error. -/
def apply (s : Setter) (value : String) : RecordM Unit := s.actions.forM (Action.run value)

end Setter
end ServiceAtlas
