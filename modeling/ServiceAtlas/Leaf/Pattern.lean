import ServiceAtlas.Text.Cut

/-!
# Patterns

A pattern such as `.redis.host:.redis.port/$` names the paths that the parts of a value go to and
the separators between them. A path token opens at a dot and runs through small letters, underscores
and dots; all else is separator text. A separator that ends in `$` drops whatever follows it.
-/
namespace ServiceAtlas

/-- A literal between two values. -/
structure Separator where
  literal : List Char
  /-- Stop after this separator and drop the text behind it. -/
  forcedEnd : Bool := false
deriving DecidableEq, Repr

namespace Separator

def ofRun (run : List Char) : Separator :=
  match Text.before? ['$'] run with
  | some literal => ⟨literal, true⟩
  | none => ⟨run, false⟩

/-- The separator as it is written in a pattern. -/
def written (s : Separator) : List Char := if s.forcedEnd then s.literal ++ ['$'] else s.literal

@[simp] theorem written_ofRun (run : List Char) : (ofRun run).written = run := by
  unfold ofRun
  split
  · next literal h => simp [written, Text.before?_eq_some_iff.1 h]
  · simp [written]

end Separator

/-- A part of a pattern. -/
inductive Piece where
  | token (path : List Char)
  | run (text : List Char)
deriving DecidableEq, Repr

def Piece.written : Piece → List Char
  | token path => path
  | run text => text

structure Pattern where
  paths : List (List Char)
  separators : List Separator
deriving DecidableEq, Repr

namespace Pattern

def isPathChar (c : Char) : Bool := ('a' ≤ c && c ≤ 'z') || c = '_' || c = '.'

/-- The rest of a token, or else of a separator run, and the pieces behind it. -/
def continued : (inToken : Bool) → List Char → List Char × List Piece
  | _, [] => ([], [])
  | true, c :: text =>
    if isPathChar c then
      let (rest, pieces) := continued true text
      (c :: rest, pieces)
    else
      let (rest, pieces) := continued false text
      ([], .run (c :: rest) :: pieces)
  | false, c :: text =>
    if c = '.' then
      let (rest, pieces) := continued true text
      ([], .token (c :: rest) :: pieces)
    else
      let (rest, pieces) := continued false text
      (c :: rest, pieces)

/-- The tokens and separator runs of a pattern, in order. -/
def pieces (text : List Char) : List Piece :=
  match continued false text with
  | ([], pieces) => pieces
  | (c :: rest, pieces) => .run (c :: rest) :: pieces

theorem written_continued (inToken : Bool) (text : List Char) :
    (continued inToken text).1 ++ (continued inToken text).2.flatMap Piece.written = text := by
  induction text generalizing inToken with
  | nil => simp [continued]
  | cons c text ih =>
    cases inToken
    · by_cases h : c = '.' <;> simp [continued, h, Piece.written, ih]
    · by_cases h : isPathChar c = true <;> simp [continued, h, Piece.written, ih]

/-- Nothing of a pattern is lost. -/
theorem written_pieces (text : List Char) : (pieces text).flatMap Piece.written = text := by
  have h := written_continued false text
  unfold pieces
  split <;> simp_all [Piece.written]

def path? : Piece → Option (List Char)
  | .token path => some path
  | .run _ => none

def separator? : Piece → Option Separator
  | .token _ => none
  | .run text => some (.ofRun text)

def read (text : List Char) : Pattern :=
  ⟨(pieces text).filterMap path?, (pieces text).filterMap separator?⟩

example : read ".redis.host:.redis.port/$".toList =
    ⟨[".redis.host".toList, ".redis.port".toList], [⟨[':'], false⟩, ⟨['/'], true⟩]⟩ := by decide
example : (read "all.kafka.host".toList).separators = [⟨['a', 'l', 'l'], false⟩] := by decide

end Pattern

/-- The parts of a value, and the separator that was not found, if one was not. -/
structure Split where
  values : List (List Char)
  missing : Option (List Char) := none
deriving DecidableEq, Repr

namespace Split

/-- A part is kept unless it is empty. -/
def kept (part : List Char) : List (List Char) := if part.isEmpty then [] else [part]

/-- Cuts a value at each separator in order. An empty literal takes the rest whole, and so does one
that does not occur. -/
def ofValue : List Separator → List Char → Split
  | [], rest => ⟨kept rest, none⟩
  | s :: separators, rest =>
    if s.literal.isEmpty then ⟨kept rest, none⟩
    else
      match Text.cut? s.literal rest with
      | none => ⟨kept rest, some s.literal⟩
      | some (before, after) =>
        if s.forcedEnd then ⟨kept before, none⟩
        else
          let split := ofValue separators after
          ⟨kept before ++ split.values, split.missing⟩

example : ofValue [⟨[':'], false⟩, ⟨['/'], true⟩] "10.0.0.1:5432/extra".toList =
    ⟨["10.0.0.1".toList, "5432".toList], none⟩ := by decide

end Split
end ServiceAtlas
