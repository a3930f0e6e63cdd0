import ServiceAtlas.Yaml.Error
import ServiceAtlas.Yaml.Tag

/-! Tokens of a YAML text and the place up to which it has been read. -/
namespace ServiceAtlas.Yaml

inductive ScalarStyle where
  | plain
  | quoted
  | literal
  | folded
deriving DecidableEq, Repr

inductive Token where
  | version (major minor : Nat)
  | tagHandle (handle : String) (expansion : Text.Bytes)
  | documentStart
  | documentEnd
  | blockSequenceStart
  | blockMappingStart
  | blockEnd
  | flowSequenceStart
  | flowSequenceEnd
  | flowMappingStart
  | flowMappingEnd
  | blockEntry
  | flowEntry
  | key
  | value
  | reference (name : String)
  | anchor (name : String)
  | tag (handle : String) (suffix : Text.Bytes)
  | scalar (style : ScalarStyle) (text : String)
deriving DecidableEq, Repr

/-- What is left of a text, and where it stands: `column` counts the characters of the line in front
of it, `offset` their bytes. -/
structure Cursor where
  rest : List Char
  line : Nat := 0
  column : Nat := 0
  offset : Nat := 0
deriving DecidableEq, Repr

/-- A line feed or a separator of lines or paragraphs. -/
def isBreak (c : Char) : Bool := c = '\n' || c.toNat = 0x2028 || c.toNat = 0x2029

def isBlank (c : Char) : Bool := c = ' ' || c = '\t'

/-- Whether a blank, a break or the end follows. -/
def gapFollows : List Char → Bool
  | [] => true
  | c :: _ => isBlank c || isBreak c

/-- Whether the text begins with a mark of the start or the end of a document. -/
def documentMarkFollows : List Char → Bool
  | '-' :: '-' :: '-' :: rest => gapFollows rest
  | '.' :: '.' :: '.' :: rest => gapFollows rest
  | _ => false

/-- Characters of anchor names, tag handles and directive names. -/
def isWordChar (c : Char) : Bool :=
  ('a' ≤ c && c ≤ 'z') || ('A' ≤ c && c ≤ 'Z') || ('0' ≤ c && c ≤ '9') || c = '_' || c = '-'

namespace Cursor

/-- Passes over characters of the line, after which `rest` is left. -/
def past (c : Cursor) (taken rest : List Char) : Cursor :=
  { c with
    rest, column := c.column + taken.length,
    offset := taken.foldl (fun n d => n + d.utf8Size) c.offset }

/-- Passes over a line break, after which `rest` is left. -/
def pastBreak (c : Cursor) (rest : List Char) : Cursor := { rest, line := c.line + 1 }

def skip (c : Cursor) (n : Nat) : Cursor := c.past (c.rest.take n) (c.rest.drop n)

/-- The characters of the line with `p`, and the cursor behind them. -/
def span (c : Cursor) (p : Char → Bool) : List Char × Cursor :=
  let taken := c.rest.takeWhile p
  (taken, c.past taken (c.rest.dropWhile p))

def skipWhile (c : Cursor) (p : Char → Bool) : Cursor := (c.span p).2

/-- Passes over blanks and a comment, which must reach the end of the line. -/
def finishLine (c : Cursor) (error : Error) : Except Error Cursor :=
  let c := c.skipWhile isBlank
  let c := if c.rest.head? = some '#' then c.skipWhile fun d => !isBreak d else c
  match c.rest with
  | [] => .ok c
  | d :: rest => if isBreak d then .ok (c.pastBreak rest) else .error error

end Cursor
end ServiceAtlas.Yaml
