import ServiceAtlas.Yaml.Token.Basic

/-!
# Scalars in a text

The three ways to write a scalar: plain, between quotes, and as an indented block. Over several
lines the first two are folded: a single line break becomes a space, and of several the first is
dropped.
-/
namespace ServiceAtlas.Yaml

/-- The characters of a scalar so far, last first, and the blanks and line breaks behind them. -/
structure Folding where
  done : List Char := []
  blanks : List Char := []
  firstBreak : Option Char := none
  moreBreaks : List Char := []
  broken : Bool := false
deriving Repr

namespace Folding

/-- Takes the pending blanks and breaks into the text. -/
def settled (f : Folding) : List Char :=
  if f.broken then
    match f.firstBreak with
    | some '\n' => if f.moreBreaks.isEmpty then ' ' :: f.done else f.moreBreaks ++ f.done
    | some c => f.moreBreaks ++ c :: f.done
    | none => f.moreBreaks ++ f.done
  else f.blanks ++ f.done

def push (f : Folding) (c : Char) : Folding := { done := c :: f.settled }

/-- Blanks behind a line break are dropped. -/
def blank (f : Folding) (c : Char) : Folding :=
  if f.broken then f else { f with blanks := c :: f.blanks }

def lineBreak (f : Folding) (c : Char) : Folding :=
  if f.broken then { f with moreBreaks := c :: f.moreBreaks }
  else { f with blanks := [], firstBreak := some c, broken := true }

/-- A line break that is written but does not count. -/
def escapedBreak (f : Folding) : Folding := { done := f.settled, broken := true }

def text (f : Folding) : String := String.ofList f.settled.reverse

/-- The text without the blanks and breaks behind it. -/
def bareText (f : Folding) : String := String.ofList f.done.reverse

end Folding

/-- The characters that a letter behind a backslash stands for. -/
def simpleEscapes : List (Char × Nat) :=
  [('0', 0x00), ('a', 0x07), ('b', 0x08), ('t', 0x09), ('\t', 0x09), ('n', 0x0A), ('v', 0x0B),
   ('f', 0x0C), ('r', 0x0D), ('e', 0x1B), (' ', 0x20), ('"', 0x22), ('/', 0x2F), ('\\', 0x5C),
   ('N', 0x85), ('_', 0xA0), ('L', 0x2028), ('P', 0x2029)]

def hexDigit? (c : Char) : Option Nat :=
  if '0' ≤ c && c ≤ '9' then some (c.toNat - '0'.toNat)
  else if 'a' ≤ c && c ≤ 'f' then some (c.toNat - 'a'.toNat + 10)
  else if 'A' ≤ c && c ≤ 'F' then some (c.toNat - 'A'.toNat + 10)
  else none

def hexValue? (digits : List Char) : Option Nat :=
  digits.foldlM (fun n c => (hexDigit? c).map (n * 16 + ·)) 0

def charOfHex (digits : List Char) : Except Error Char :=
  match hexValue? digits with
  | some n => if n.isValidChar then .ok (Char.ofNat n) else .error .escape
  | none => .error .escape

namespace Cursor

/-- Reads up to the closing quote. -/
def scanQuoted (double : Bool) :
    Folding → Cursor → List Char → Except Error (String × Cursor)
  | _, _, [] => .error .unclosedQuotes
  | f, at_, c :: rest =>
    if isBreak c then scanQuoted double (f.lineBreak c) (at_.pastBreak rest) rest
    else if isBlank c then scanQuoted double (f.blank c) (at_.past [c] rest) rest
    else if at_.column = 0 && documentMarkFollows (c :: rest) then .error .documentMarkInQuotes
    else if double then
      if c = '"' then .ok (f.text, at_.past [c] rest)
      else if c = '\\' then
        match rest with
        | 'x' :: a :: b :: rest => do
          let c ← charOfHex [a, b]
          scanQuoted double (f.push c) (at_.past ['\\', 'x', a, b] rest) rest
        | 'u' :: a :: b :: d :: e :: rest => do
          let c ← charOfHex [a, b, d, e]
          scanQuoted double (f.push c) (at_.past ['\\', 'u', a, b, d, e] rest) rest
        | 'U' :: a :: b :: d :: e :: g :: h :: i :: j :: rest => do
          let c ← charOfHex [a, b, d, e, g, h, i, j]
          scanQuoted double (f.push c) (at_.past ['\\', 'U', a, b, d, e, g, h, i, j] rest) rest
        | c :: rest =>
          if isBreak c then scanQuoted double f.escapedBreak (at_.pastBreak rest) rest
          else
            match simpleEscapes.lookup c with
            | some n => scanQuoted double (f.push (Char.ofNat n)) (at_.past ['\\', c] rest) rest
            | none => .error .escape
        | [] => .error .escape
      else scanQuoted double (f.push c) (at_.past [c] rest) rest
    else if c = '\'' then
      match rest with
      | '\'' :: rest => scanQuoted double (f.push '\'') (at_.past [c, c] rest) rest
      | rest => .ok (f.text, at_.past [c] rest)
    else scanQuoted double (f.push c) (at_.past [c] rest) rest

/-- What a plain scalar must heed: whether it stands between brackets, and the least column of its
lines otherwise. -/
structure PlainContext where
  inFlow : Bool
  leastColumn : Int

def isFlowMark (c : Char) : Bool := c = ',' || c = '[' || c = ']' || c = '\x7b' || c = '\x7d'

/-- Reads a plain scalar. Also tells whether a line break was passed over behind it. -/
def scanPlain (context : PlainContext) :
    Folding → Cursor → List Char → Except Error (String × Bool × Cursor)
  | f, at_, [] => .ok (f.bareText, f.broken, at_)
  | f, at_, c :: rest =>
    if isBreak c then scanPlain context (f.lineBreak c) (at_.pastBreak rest) rest
    else if isBlank c then
      if f.broken && c = '\t' && at_.column < context.leastColumn then .error .tabIndentation
      else scanPlain context (f.blank c) (at_.past [c] rest) rest
    else if (f.broken && !context.inFlow && at_.column < context.leastColumn)
        || (at_.column = 0 && documentMarkFollows (c :: rest))
        || (c = '#' && (f.broken || !f.blanks.isEmpty)) then .ok (f.bareText, f.broken, at_)
    else if context.inFlow && c = ':' && rest.head?.any (fun d => isFlowMark d || d = '?') then
      .error .unexpectedColon
    else if (c = ':' && gapFollows rest) || (context.inFlow && isFlowMark c) then
      .ok (f.bareText, f.broken, at_)
    else scanPlain context (f.push c) (at_.past [c] rest) rest

inductive Chomping where
  | clip
  | strip
  | keep
deriving DecidableEq, Repr

/-- What has been read of a block scalar, its characters and breaks last first. -/
structure Block where
  folded : Bool
  chomping : Chomping
  /-- The column that the lines begin in, once it is known. -/
  indent : Option Nat
  /-- The least column that they may begin in. -/
  leastIndent : Nat
  deepest : Nat := 0
  done : List Char := []
  lineBreak : Option Char := none
  emptyLines : List Char := []
  afterBlank : Bool := false
deriving Repr

namespace Block

def settledIndent (b : Block) : Nat := b.indent.getD (max b.deepest b.leastIndent)

/-- Whether a column is left of the lines of the block, as far as is known. -/
def isBefore (b : Block) (column : Nat) : Bool := b.indent.all (column < ·)

/-- The block with the first character of a line. -/
def beginLine (b : Block) (c : Char) : Block :=
  let folds := b.folded && b.lineBreak = some '\n' && !b.afterBlank && !isBlank c
  let done :=
    if folds then if b.emptyLines.isEmpty then ' ' :: b.done else b.done
    else b.lineBreak.toList ++ b.done
  { b with
    done := c :: (b.emptyLines ++ done), lineBreak := none, emptyLines := [],
    afterBlank := isBlank c }

def text (b : Block) : String :=
  let done := if b.chomping = .strip then b.done else b.lineBreak.toList ++ b.done
  let done := if b.chomping = .keep then b.emptyLines ++ done else done
  String.ofList done.reverse

end Block

/-- Reads the lines of a block scalar, in a line or in the indentation before one. -/
def scanBlock : (inLine : Bool) → Block → Cursor → List Char → Except Error (String × Cursor)
  | _, b, at_, [] => .ok (b.text, at_)
  | true, b, at_, c :: rest =>
    if isBreak c then scanBlock false { b with lineBreak := some c } (at_.pastBreak rest) rest
    else scanBlock true { b with done := c :: b.done } (at_.past [c] rest) rest
  | false, b, at_, c :: rest =>
    if c = ' ' && b.isBefore at_.column then scanBlock false b (at_.past [c] rest) rest
    else if c = '\t' && b.isBefore at_.column then .error .tabIndentation
    else
      let b := { b with deepest := max b.deepest at_.column }
      if isBreak c then
        scanBlock false { b with emptyLines := c :: b.emptyLines } (at_.pastBreak rest) rest
      else
        let b := { b with indent := some b.settledIndent }
        if at_.column = b.settledIndent then scanBlock true (b.beginLine c) (at_.past [c] rest) rest
        else .ok (b.text, at_)

/-- A sign that says what becomes of the breaks at the end. -/
def chomping? : Char → Option Chomping
  | '+' => some .keep
  | '-' => some .strip
  | _ => none

/-- A digit for the depth of a block below its parent. -/
def depth? (c : Char) : Option Nat :=
  if '0' ≤ c && c ≤ '9' then some (c.toNat - '0'.toNat) else none

/-- The sign and the digit behind the mark of a block scalar, in either order. -/
def blockHeader (c : Cursor) : Except Error (Chomping × Option Nat × Cursor) :=
  let (chomping, depth, c) := match c.rest with
    | [] => (none, none, c)
    | a :: rest =>
      match chomping? a, depth? a with
      | some chomping, _ => (some chomping, (rest.head?.bind depth?), c.skip 1)
      | none, some depth => (rest.head?.bind chomping?, some depth, c.skip 1)
      | none, none => (none, none, c)
  let c := if chomping.isSome && depth.isSome then c.skip 1 else c
  if depth = some 0 then .error .blockHeader
  else .ok (chomping.getD .clip, depth, c)

/-- Reads a block scalar behind its mark, in a collection whose lines begin in column `parent`. -/
def scanBlockScalar (folded : Bool) (parent : Int) (c : Cursor) :
    Except Error (String × Cursor) := do
  let (chomping, depth, c) ← c.blockHeader
  let c ← c.finishLine .blockHeader
  let indent := depth.map fun d => (max parent 0).toNat + d
  scanBlock false { folded, chomping, indent, leastIndent := max 1 (parent + 1).toNat } c c.rest

end Cursor
end ServiceAtlas.Yaml
