import ServiceAtlas.Yaml.Token.Scalars

/-!
# From characters to tokens

Tokens are found from left to right. A key is known as one only at its colon: what could begin a key
leaves an empty cell in front of it, which the colon fills.
-/
namespace ServiceAtlas.Yaml

/-- A token that a colon can still make a key. -/
structure PossibleKey where
  cell : Nat
  /-- Nothing else than a key can stand here. -/
  required : Bool
  line : Nat
  column : Nat
  offset : Nat
deriving Repr

structure Scanner where
  cursor : Cursor
  cells : Array (List Token) := #[]
  /-- The column of the innermost block collection, and those of the ones around it. -/
  indent : Int := -1
  outerIndents : List Int := []
  keyAllowed : Bool := true
  possibleKey : Option PossibleKey := none
  /-- One entry for each open bracket: the possible key in front of it. -/
  outerKeys : List (Option PossibleKey) := []

namespace Scanner

def inFlow (s : Scanner) : Bool := !s.outerKeys.isEmpty

def column (s : Scanner) : Int := s.cursor.column

def emit (s : Scanner) (token : Token) : Scanner := { s with cells := s.cells.push [token] }

/-- Emits a token of `n` characters. -/
def emitOver (s : Scanner) (n : Nat) (token : Token) : Scanner :=
  { s.emit token with cursor := s.cursor.skip n }

/-- Passes over blanks, comments and line breaks. Outside brackets a new line may begin a key. -/
def toNextToken (inFlow : Bool) :
    (inComment keyAllowed : Bool) → Cursor → List Char → Cursor × Bool
  | _, keyAllowed, at_, [] => (at_, keyAllowed)
  | inComment, keyAllowed, at_, c :: rest =>
    if isBreak c then toNextToken inFlow false (keyAllowed || !inFlow) (at_.pastBreak rest) rest
    else if inComment || c = ' ' || (c = '\t' && (inFlow || !keyAllowed))
        || (c = '\ufeff' && at_.column = 0) then
      toNextToken inFlow inComment keyAllowed (at_.past [c] rest) rest
    else if c = '#' then toNextToken inFlow true keyAllowed (at_.past [c] rest) rest
    else (at_, keyAllowed)

/-- A key stands on one line and has at most 1024 bytes. -/
def stillPossible (c : Cursor) : Option PossibleKey → Except Error (Option PossibleKey)
  | none => .ok none
  | some key =>
    if key.line < c.line || key.offset + 1024 < c.offset then
      if key.required then .error .missingColon else .ok none
    else .ok (some key)

def dropStaleKeys (s : Scanner) : Except Error Scanner := do
  let possibleKey ← stillPossible s.cursor s.possibleKey
  let outerKeys ← s.outerKeys.mapM (stillPossible s.cursor)
  return { s with possibleKey, outerKeys }

def dropKey (s : Scanner) : Except Error Scanner :=
  if s.possibleKey.any (·.required) then .error .missingColon
  else .ok { s with possibleKey := none }

/-- Notes that the next token could begin a key. -/
def saveKey (s : Scanner) : Except Error Scanner :=
  if s.keyAllowed then do
    let s ← s.dropKey
    let key : PossibleKey :=
      { cell := s.cells.size, required := !s.inFlow && s.indent == s.column,
        line := s.cursor.line, column := s.cursor.column, offset := s.cursor.offset }
    return { s with cells := s.cells.push [], possibleKey := some key }
  else .ok s

/-- Ends the block collections that begin right of `column`, innermost first. -/
def endBlocks (column : Int) :
    Int → List Int → Array (List Token) → Int × List Int × Array (List Token)
  | indent, [], cells => (indent, [], cells)
  | indent, outer :: outers, cells =>
    if column < indent then endBlocks column outer outers (cells.push [.blockEnd])
    else (indent, outer :: outers, cells)

def unindent (s : Scanner) (column : Int) : Scanner :=
  if s.inFlow then s
  else
    let (indent, outerIndents, cells) := endBlocks column s.indent s.outerIndents s.cells
    { s with indent, outerIndents, cells }

/-- Whether a block collection begins at `column`. -/
def opensBlock (s : Scanner) (column : Int) : Bool := !s.inFlow && decide (s.indent < column)

/-- Begins a block collection at `column` unless one is there already. -/
def indentTo (s : Scanner) (column : Int) (start : Token) : Scanner :=
  if s.opensBlock column then
    { s.emit start with indent := column, outerIndents := s.indent :: s.outerIndents }
  else s

/-- Leaves all block collections, as at the bounds of a document. -/
def leaveBlocks (s : Scanner) : Except Error Scanner := do
  let s ← (s.unindent (-1)).dropKey
  return { s with keyAllowed := false }

def readNumber (c : Cursor) : Except Error (Nat × Cursor) :=
  let (digits, c) := c.span fun d => '0' ≤ d && d ≤ '9'
  if digits.isEmpty || 9 < digits.length then .error .version
  else .ok (digits.foldl (fun n d => n * 10 + (d.toNat - '0'.toNat)) 0, c)

def versionDirective (c : Cursor) : Except Error (Token × Cursor) := do
  let (major, c) ← readNumber (c.skipWhile isBlank)
  if c.rest.head? != some '.' then throw .version
  let (minor, c) ← readNumber (c.skip 1)
  return (.version major minor, c)

/-- `!`, or a word between two exclamation marks, or the first part of a tag. -/
def tagHandle (c : Cursor) : Except Error (List Char × Cursor) :=
  match c.rest with
  | '!' :: rest =>
    let (word, c) := (c.past ['!'] rest).span isWordChar
    match c.rest with
    | '!' :: rest => .ok ('!' :: word ++ ['!'], c.past ['!'] rest)
    | _ => .ok ('!' :: word, c)
  | _ => .error .tag

def isUriChar (verbatim : Bool) (c : Char) : Bool :=
  isWordChar c || ";/?:@&=+$.!~*'()".toList.contains c
    || (verbatim && (c = ',' || c = '[' || c = ']'))

/-- The number of octets of a sequence that begins with this one. -/
def octetWidth (octet : Nat) : Nat :=
  if octet < 0x80 then 1
  else if octet / 32 = 6 then 2
  else if octet / 16 = 14 then 3
  else if octet / 8 = 30 then 4
  else 0

/-- The octets of a tag, written as they are or escaped; `awaited` of them must follow to end a
sequence. -/
def uriFrom (verbatim : Bool) : (awaited : Nat) → (done : Text.Bytes) → Cursor → List Char →
    Except Error (Text.Bytes × Cursor)
  | awaited, done, at_, '%' :: high :: low :: rest =>
    match hexDigit? high, hexDigit? low with
    | some a, some b =>
      let octet := a * 16 + b
      let at_ := at_.past ['%', high, low] rest
      if awaited = 0 then
        match octetWidth octet with
        | 0 => .error .tag
        | width + 1 => uriFrom verbatim width (.ofNat octet :: done) at_ rest
      else if octet / 64 = 2 then
        uriFrom verbatim (awaited - 1) (.ofNat octet :: done) at_ rest
      else .error .tag
    | _, _ => .error .tag
  | awaited, done, at_, c :: rest =>
    if awaited = 0 && isUriChar verbatim c then
      uriFrom verbatim 0 (c.toUInt8 :: done) (at_.past [c] rest) rest
    else if awaited = 0 && c != '%' then .ok (done.reverse, at_)
    else .error .tag
  | awaited, done, at_, [] => if awaited = 0 then .ok (done.reverse, at_) else .error .tag

def uri (verbatim : Bool) (c : Cursor) : Except Error (Text.Bytes × Cursor) :=
  uriFrom verbatim 0 [] c c.rest

def gapOr (p : Char → Bool) : List Char → Bool
  | [] => true
  | c :: _ => isBlank c || isBreak c || p c

def tagDirective (c : Cursor) : Except Error (Token × Cursor) := do
  let (handle, c) ← tagHandle (c.skipWhile isBlank)
  if handle.length > 1 && handle.getLast? != some '!' then throw .tag
  if !c.rest.head?.any isBlank then throw .directive
  let (expansion, c) ← uri true (c.skipWhile isBlank)
  if expansion.isEmpty || !gapFollows c.rest then throw .directive
  return (.tagHandle (String.ofList handle) (Tag.untilZero expansion), c)

def directive (s : Scanner) : Except Error Scanner := do
  let s ← s.leaveBlocks
  let (name, c) := (s.cursor.skip 1).span isWordChar
  if !gapFollows c.rest then throw .directive
  let (token, c) ← match String.ofList name with
    | "YAML" => versionDirective c
    | "TAG" => tagDirective c
    | _ => .error .directive
  let c ← c.finishLine .directive
  return { s.emit token with cursor := c }

def documentMark (s : Scanner) (token : Token) : Except Error Scanner := do
  let s ← s.leaveBlocks
  return s.emitOver 3 token

def flowStart (s : Scanner) (token : Token) : Except Error Scanner := do
  let s ← s.saveKey
  return { s.emitOver 1 token with
    outerKeys := s.possibleKey :: s.outerKeys, possibleKey := none, keyAllowed := true }

def flowEnd (s : Scanner) (token : Token) : Except Error Scanner := do
  let s ← s.dropKey
  let (possibleKey, outerKeys) := match s.outerKeys with
    | key :: keys => (key, keys)
    | [] => (none, [])
  return { s.emitOver 1 token with possibleKey, outerKeys, keyAllowed := false }

def flowEntry (s : Scanner) : Except Error Scanner := do
  let s ← s.dropKey
  return { s.emitOver 1 .flowEntry with keyAllowed := true }

def blockEntry (s : Scanner) : Except Error Scanner := do
  if !s.inFlow && !s.keyAllowed then throw (.misplaced '-')
  let s ← (s.indentTo s.column .blockSequenceStart).dropKey
  return { s.emitOver 1 .blockEntry with keyAllowed := true }

def explicitKey (s : Scanner) : Except Error Scanner := do
  if !s.inFlow && !s.keyAllowed then throw (.misplaced '?')
  let s ← (s.indentTo s.column .blockMappingStart).dropKey
  return { s.emitOver 1 .key with keyAllowed := !s.inFlow }

/-- A colon makes a key of what could be one, and else ends a key that was announced. -/
def value (s : Scanner) : Except Error Scanner :=
  match s.possibleKey with
  | some key =>
    let opens := s.opensBlock key.column
    let cell := if opens then [.blockMappingStart, .key] else [.key]
    let s :=
      if opens then { s with indent := key.column, outerIndents := s.indent :: s.outerIndents }
      else s
    .ok { { s with cells := s.cells.setIfInBounds key.cell cell }.emitOver 1 .value with
      possibleKey := none, keyAllowed := false }
  | none => do
    if !s.inFlow && !s.keyAllowed then throw (.misplaced ':')
    let s := s.indentTo s.column .blockMappingStart
    return { s.emitOver 1 .value with keyAllowed := !s.inFlow }

/-- Reads a token that can begin a key. -/
def keyLike (s : Scanner) (read : Cursor → Except Error (Token × Cursor)) :
    Except Error Scanner := do
  let s ← s.saveKey
  let (token, c) ← read s.cursor
  return { s.emit token with cursor := c, keyAllowed := false }

def anchorName (c : Cursor) : Except Error (String × Cursor) :=
  let (name, c) := (c.skip 1).span isWordChar
  if name.isEmpty || !gapOr (fun d => "?:,]\x7d%@\x60".toList.contains d) c.rest then
    .error .anchorName
  else .ok (String.ofList name, c)

def tagBody (c : Cursor) : Except Error (Token × Cursor) :=
  match c.rest with
  | '!' :: '<' :: rest => do
    let (body, c) ← uri true (c.past ['!', '<'] rest)
    match c.rest with
    | '>' :: rest =>
      if body.isEmpty then throw .tag
      return (.tag "" (Tag.untilZero body), c.past ['>'] rest)
    | _ => throw .tag
  | _ => do
    let (handle, c) ← tagHandle c
    let (suffix, c) ← uri false c
    if 1 < handle.length && handle.getLast? = some '!' then
      if suffix.isEmpty then throw .tag
      return (.tag (String.ofList handle) (Tag.untilZero suffix), c)
    else
      match handle.tail.map Char.toUInt8 ++ Tag.untilZero suffix with
      | [] => return (.tag "" (Tag.ofText "!").octets, c)
      | suffix => return (.tag "!" suffix, c)

def tag (inFlow : Bool) (c : Cursor) : Except Error (Token × Cursor) := do
  let (token, c) ← tagBody c
  if gapOr (fun d => inFlow && d = ',') c.rest then return (token, c) else throw .tag

def quotedScalar (double : Bool) (c : Cursor) : Except Error (Token × Cursor) := do
  let c := c.skip 1
  let (text, c) ← c.scanQuoted double {} c.rest
  return (.scalar .quoted text, c)

def blockScalar (s : Scanner) (folded : Bool) : Except Error Scanner := do
  let s ← s.dropKey
  let (text, c) ← (s.cursor.skip 1).scanBlockScalar folded s.indent
  let style := if folded then .folded else .literal
  return { s.emit (.scalar style text) with cursor := c, keyAllowed := true }

def plainScalar (s : Scanner) : Except Error Scanner := do
  let s ← s.saveKey
  let context : Cursor.PlainContext := { inFlow := s.inFlow, leastColumn := s.indent + 1 }
  let (text, broken, c) ← Cursor.scanPlain context {} s.cursor s.cursor.rest
  return { s.emit (.scalar .plain text) with cursor := c, keyAllowed := broken }

def beginsPlain (inFlow : Bool) (c : Char) (rest : List Char) : Bool :=
  if c = '-' then !rest.head?.any isBlank
  else if c = '?' || c = ':' then !inFlow && !gapFollows rest
  else !isBlank c && !isBreak c && !",[]\x7b\x7d#&*!|>'\"%@\x60".toList.contains c

/-- Reads the token that begins with `c`. -/
def token (s : Scanner) (c : Char) (rest : List Char) : Except Error Scanner :=
  if s.cursor.column = 0 && c = '%' then s.directive
  else if s.cursor.column = 0 && documentMarkFollows (c :: rest) then
    s.documentMark (if c = '-' then .documentStart else .documentEnd)
  else if c = '[' then s.flowStart .flowSequenceStart
  else if c = '\x7b' then s.flowStart .flowMappingStart
  else if c = ']' then s.flowEnd .flowSequenceEnd
  else if c = '\x7d' then s.flowEnd .flowMappingEnd
  else if c = ',' then s.flowEntry
  else if c = '-' && gapFollows rest then s.blockEntry
  else if c = '?' && (s.inFlow || gapFollows rest) then s.explicitKey
  else if c = ':' && (s.inFlow || gapFollows rest) then s.value
  else if c = '*' then s.keyLike fun c => (anchorName c).map fun (name, c) => (.reference name, c)
  else if c = '&' then s.keyLike fun c => (anchorName c).map fun (name, c) => (.anchor name, c)
  else if c = '!' then s.keyLike (tag s.inFlow)
  else if c = '|' && !s.inFlow then s.blockScalar false
  else if c = '>' && !s.inFlow then s.blockScalar true
  else if c = '\'' then s.keyLike (quotedScalar false)
  else if c = '"' then s.keyLike (quotedScalar true)
  else if beginsPlain s.inFlow c rest then s.plainScalar
  else .error (.unknownCharacter c)

/-- The scanner in front of its next token. -/
def toToken (s : Scanner) : Except Error Scanner := do
  let (cursor, keyAllowed) := toNextToken s.inFlow false s.keyAllowed s.cursor s.cursor.rest
  let s ← { s with cursor, keyAllowed }.dropStaleKeys
  return s.unindent s.column

/-- Reads at most `fuel` tokens. Each takes a character at least, so that the length of the text is
enough. -/
def tokens : (fuel : Nat) → Scanner → Except Error (List Token)
  | 0, _ => .error (.expected "the end of the text")
  | fuel + 1, s => do
    let s ← s.toToken
    match s.cursor.rest with
    | [] => do
      let s ← s.leaveBlocks
      return s.cells.toList.flatten
    | c :: rest => do
      let s ← s.token c rest
      tokens fuel s

end Scanner

namespace Token

/-- The tokens of a text. -/
def ofText (text : List Char) : Except Error (List Token) :=
  Scanner.tokens (text.length + 1) { cursor := { rest := text } }

example : (ofText "a: [b, 'c']".toList).toOption = some
    [.blockMappingStart, .key, .scalar .plain "a", .value, .flowSequenceStart, .scalar .plain "b",
     .flowEntry, .scalar .quoted "c", .flowSequenceEnd, .blockEnd] := by decide +kernel

end Token
end ServiceAtlas.Yaml
