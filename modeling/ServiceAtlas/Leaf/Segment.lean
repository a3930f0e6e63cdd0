import ServiceAtlas.Error
import ServiceAtlas.Leaf.Pattern
import ServiceAtlas.Text.Blank

/-!
# Segments of a leaf

A leaf such as `{{ all.kafka.host | weight 2 }}` is a pipeline of segments between bars. A segment
declares a weight, writes a literal when the value is a given boolean, splits the value by a
pattern, writes a literal whatever the value, or writes the value itself; it is read as the first of
these forms that it has the look of.
-/
namespace ServiceAtlas

inductive Segment where
  | weight (weight : Int)
  | conditional (expected : Bool) (path literal : List Char)
  | parse (pattern : Pattern)
  | preset (path literal : List Char)
  | direct (path : List Char)
deriving DecidableEq, Repr

namespace Segment

def invalid (segment : List Char) (fault : SegmentFault) : ExtractError :=
  .invalidSegment (String.ofList segment) fault

def readWeight (segment rest : List Char) : Except ExtractError Segment :=
  match Text.readInt64 rest with
  | .ok n => .ok (.weight n)
  | .error fault => .error (invalid segment (.weight fault))

/-- The condition and the assignment behind `if`. -/
def readConditional (segment rest : List Char) : Except ExtractError Segment :=
  match Text.cut? [' '] rest with
  | none => .error (invalid segment .shape)
  | some (condition, assignment) =>
    match Text.readBool (String.ofList condition) with
    | none => .error (invalid segment (.condition (String.ofList condition)))
    | some expected =>
      match Text.cut? " = ".toList assignment with
      | none => .error (invalid segment .shape)
      | some (path, literal) => .ok (.conditional expected path literal)

def readParse (segment rest : List Char) : Except ExtractError Segment :=
  let pattern := Pattern.read rest
  if pattern.paths.isEmpty then .error (invalid segment .noPath) else .ok (.parse pattern)

/-- Reads a segment without white space around it. -/
def read (segment : List Char) : Except ExtractError Segment :=
  match Text.after? "weight ".toList segment with
  | some rest => readWeight segment rest
  | none =>
    match Text.after? "if ".toList segment with
    | some rest => readConditional segment rest
    | none =>
      match Text.after? "parse ".toList segment with
      | some rest => readParse segment rest
      | none =>
        match Text.cut? " = ".toList segment with
        | some (path, literal) => .ok (.preset path literal)
        | none => .ok (.direct segment)

def opening : List Char := ['{', '{', ' ']

def closing : List Char := [' ', '}', '}']

/-- The texts of the segments of a leaf; the braces may be missing on either side. -/
def texts (leaf : List Char) : List (List Char) :=
  let inner := (Text.after? opening leaf).getD leaf
  let inner := (Text.before? closing inner).getD inner
  (Text.splitOn " | ".toList inner).map Text.trim

end Segment
end ServiceAtlas
