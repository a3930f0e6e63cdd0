import ServiceAtlas.Yaml.Source
import ServiceAtlas.Yaml.Token.Scan

/-!
# Nodes of a YAML text

The tree that the tokens describe, with scalars as written and aliases unresolved. Anchors are
numbered as they are met: the number of an anchor is how many names were known before it, so that a
name used twice makes room for the next one to take its number.
-/
namespace ServiceAtlas.Yaml

inductive Node where
  | scalar (anchor : Option Nat) (tag : Option Tag) (style : ScalarStyle) (text : String)
  | sequence (anchor : Option Nat) (tag : Option Tag) (items : List Node)
  | mapping (anchor : Option Nat) (tag : Option Tag) (entries : List (Node × Node))
  | reference (anchor : Nat)
deriving Repr

namespace Node

/-- What stands where nothing was written. -/
def blank : Node := .scalar none none .plain ""

def anchor? : Node → Option Nat
  | scalar anchor .. | sequence anchor .. | mapping anchor .. => anchor
  | reference _ => none

mutual

/-- The anchored nodes in the order in which they begin. -/
def anchored : Node → List (Nat × Node)
  | scalar anchor tag style text => anchor.toList.map (·, scalar anchor tag style text)
  | sequence anchor tag items =>
    anchor.toList.map (·, sequence anchor tag items) ++ anchoredItems items
  | mapping anchor tag entries =>
    anchor.toList.map (·, mapping anchor tag entries) ++ anchoredEntries entries
  | reference _ => []

def anchoredItems : List Node → List (Nat × Node)
  | [] => []
  | item :: items => anchored item ++ anchoredItems items

def anchoredEntries : List (Node × Node) → List (Nat × Node)
  | [] => []
  | (key, value) :: entries => anchored key ++ anchored value ++ anchoredEntries entries

end

mutual

/-- Scalars and aliases count once, collections twice. -/
def weight : Node → Nat
  | scalar .. | reference _ => 1
  | sequence _ _ items => 2 + weightItems items
  | mapping _ _ entries => 2 + weightEntries entries

def weightItems : List Node → Nat
  | [] => 0
  | item :: items => weight item + weightItems items

def weightEntries : List (Node × Node) → Nat
  | [] => 0
  | (key, value) :: entries => weight key + weight value + weightEntries entries

end

end Node

/-- The tokens that are left and the anchors met so far, the latest first. -/
structure ParseState where
  tokens : List Token
  anchors : List (String × Nat) := []

abbrev Parse := StateT ParseState (Except Error)

namespace Parse

def peek : Parse (Option Token) := do return (← get).tokens.head?

def skip : Parse Unit := modify fun s => { s with tokens := s.tokens.tail }

/-- Whether one of `tokens`, or the end, is next. -/
def nextIsIn (tokens : List Token) : Parse Bool := do
  return (← peek).all tokens.contains

/-- Passes over `token` if it is next. -/
def skipIf (token : Token) : Parse Bool := do
  if (← peek) = some token then
    skip
    return true
  else return false

/-- Numbers an anchor. -/
def declare (name : String) : Parse Nat := do
  let anchors := (← get).anchors
  let known := (anchors.map Prod.fst).eraseDups.length
  modify fun s => { s with anchors := (name, known) :: anchors }
  return known

def refer (name : String) : Parse Node := do
  match (← get).anchors.lookup name with
  | some n => return .reference n
  | none => throw (.unknownAnchor name)

abbrev Handles := List (String × Text.Bytes)

def expandTag (handles : Handles) (handle : String) (suffix : Text.Bytes) : Parse Tag :=
  if handle.isEmpty then return ⟨suffix⟩
  else
    match handles.lookup handle with
    | some expansion => return ⟨expansion ++ suffix⟩
    | none => throw (.undefinedHandle handle)

def anchorName? : Parse (Option String) := do
  match ← peek with
  | some (.anchor name) => skip; return some name
  | _ => return none

def tag? (handles : Handles) : Parse (Option Tag) := do
  match ← peek with
  | some (.tag handle suffix) => skip; return some (← expandTag handles handle suffix)
  | _ => return none

/-- An anchor and a tag, in either order. -/
def properties (handles : Handles) : Parse (Option Nat × Option Tag) := do
  let name ← anchorName?
  let tag ← tag? handles
  let name ← if name.isNone && tag.isSome then anchorName? else pure name
  let anchor ← name.mapM declare
  return (anchor, tag)

/-- An anchor or a tag may stand before nothing. -/
def emptyOr (anchor : Option Nat) (tag : Option Tag) : Parse Node :=
  if anchor.isSome || tag.isSome then return .scalar anchor tag .plain ""
  else throw (.expected "a value")

mutual

/-- A node: one in a block may begin a block collection, and the value of a key a sequence that is
not indented. -/
def node (handles : Handles) : (fuel : Nat) → (inBlock atKey : Bool) → Parse Node
  | 0, _, _ => throw (.expected "a shorter text")
  | fuel + 1, inBlock, atKey => do
    if let some (.reference name) ← peek then
      skip
      return ← refer name
    let (anchor, tag) ← properties handles
    match ← peek with
    | some .blockEntry =>
      if atKey then return .sequence anchor tag (← looseItems handles fuel)
      else emptyOr anchor tag
    | some (.scalar style text) =>
      skip
      return .scalar anchor tag style text
    | some .flowSequenceStart =>
      skip
      return .sequence anchor tag (← flowItems handles fuel true)
    | some .flowMappingStart =>
      skip
      return .mapping anchor tag (← flowEntries handles fuel true)
    | some .blockSequenceStart =>
      if inBlock then
        skip
        return .sequence anchor tag (← blockItems handles fuel)
      else emptyOr anchor tag
    | some .blockMappingStart =>
      if inBlock then
        skip
        return .mapping anchor tag (← blockEntries handles fuel)
      else emptyOr anchor tag
    | _ => emptyOr anchor tag

/-- A node unless one of `stops` is next. -/
def nodeUnless (handles : Handles) :
    (fuel : Nat) → (inBlock atKey : Bool) → (stops : List Token) → Parse Node
  | 0, _, _, _ => throw (.expected "a shorter text")
  | fuel + 1, inBlock, atKey, stops => do
    if ← nextIsIn stops then return .blank else node handles fuel inBlock atKey

def blockItems (handles : Handles) : (fuel : Nat) → Parse (List Node)
  | 0 => throw (.expected "a shorter text")
  | fuel + 1 => do
    if ← skipIf .blockEntry then
      let item ← nodeUnless handles fuel true false [.blockEntry, .blockEnd]
      return item :: (← blockItems handles fuel)
    else if ← skipIf .blockEnd then return []
    else throw (.expected "'-'")

/-- The items of a sequence in the column of its key, which the next key ends. -/
def looseItems (handles : Handles) : (fuel : Nat) → Parse (List Node)
  | 0 => throw (.expected "a shorter text")
  | fuel + 1 => do
    if ← skipIf .blockEntry then
      let item ← nodeUnless handles fuel true false [.blockEntry, .key, .value, .blockEnd]
      return item :: (← looseItems handles fuel)
    else return []

def blockEntries (handles : Handles) : (fuel : Nat) → Parse (List (Node × Node))
  | 0 => throw (.expected "a shorter text")
  | fuel + 1 => do
    if ← skipIf .key then
      let key ← nodeUnless handles fuel true true [.key, .value, .blockEnd]
      let value ←
        if ← skipIf .value then nodeUnless handles fuel true true [.key, .value, .blockEnd]
        else pure .blank
      return (key, value) :: (← blockEntries handles fuel)
    else if ← skipIf .blockEnd then return []
    else throw (.expected "a key")

def flowItems (handles : Handles) : (fuel : Nat) → (first : Bool) → Parse (List Node)
  | 0, _ => throw (.expected "a shorter text")
  | fuel + 1, first => do
    if ← skipIf .flowSequenceEnd then return []
    unless first do
      unless ← skipIf .flowEntry do throw (.expected "',' or ']'")
    if ← skipIf .key then
      let pair ← flowPair handles fuel
      return .mapping none none [pair] :: (← flowItems handles fuel false)
    else if ← skipIf .flowSequenceEnd then return []
    else
      let item ← node handles fuel false false
      return item :: (← flowItems handles fuel false)

/-- A single pair in a sequence. A key that is left out takes the mark behind it along. -/
def flowPair (handles : Handles) : (fuel : Nat) → Parse (Node × Node)
  | 0 => throw (.expected "a shorter text")
  | fuel + 1 => do
    let key ←
      if ← nextIsIn [.value, .flowEntry, .flowSequenceEnd] then
        skip
        pure .blank
      else node handles fuel false false
    let value ←
      if ← skipIf .value then nodeUnless handles fuel false false [.flowEntry, .flowSequenceEnd]
      else pure .blank
    return (key, value)

def flowEntries (handles : Handles) : (fuel : Nat) → (first : Bool) → Parse (List (Node × Node))
  | 0, _ => throw (.expected "a shorter text")
  | fuel + 1, first => do
    if ← skipIf .flowMappingEnd then return []
    unless first do
      unless ← skipIf .flowEntry do throw (.expected "',' or '\x7d'")
    if ← skipIf .key then
      let key ← nodeUnless handles fuel false false [.value, .flowEntry, .flowMappingEnd]
      let value ←
        if ← skipIf .value then nodeUnless handles fuel false false [.flowEntry, .flowMappingEnd]
        else pure .blank
      return (key, value) :: (← flowEntries handles fuel false)
    else if ← skipIf .flowMappingEnd then return []
    else
      let key ← node handles fuel false false
      return (key, .blank) :: (← flowEntries handles fuel false)

end

/-- The handles that stand for themselves and for the types of the language, unless redefined. -/
def standardHandles : Handles :=
  [("!", (Tag.ofText "!").octets), ("!!", (Tag.ofType "").octets)]

/-- The directives in front of a document: at most one version, and a handle at most once. -/
def directives : (fuel : Nat) → (version : Bool) → Handles → Parse Handles
  | 0, _, _ => throw (.expected "a shorter text")
  | fuel + 1, version, handles => do
    match ← peek with
    | some (.version major minor) =>
      if version then throw .duplicateDirective
      if major != 1 || (minor != 1 && minor != 2) then throw .version
      skip
      directives fuel true handles
    | some (.tagHandle handle expansion) =>
      if (handles.lookup handle).isSome then throw .duplicateDirective
      skip
      directives fuel version (handles ++ [(handle, expansion)])
    | _ => return handles

/-- Passes over marks of the end of a document, behind which nothing may follow. -/
def finish : List Token → Except Error Unit
  | [] => .ok ()
  | .documentEnd :: tokens => finish tokens
  | _ => .error .severalDocuments

/-- A document with or without directives and a mark in front of it. -/
def root (fuel : Nat) : Parse Node := do
  match ← peek with
  | some (.version ..) | some (.tagHandle ..) | some .documentStart =>
    let handles ← directives fuel false []
    unless ← skipIf .documentStart do throw (.expected "the start of a document")
    match ← peek with
    | none | some (.version ..) | some (.tagHandle ..) | some .documentStart
    | some .documentEnd => return .blank
    | _ => node (handles ++ standardHandles) fuel true false
  | _ => node standardHandles fuel true false

end Parse

/-- A text as a tree, with the nodes that aliases can name. -/
structure Document where
  root : Node
  anchored : List (Nat × Node)
deriving Repr

namespace Document

def ofRoot (root : Node) : Document := { root, anchored := root.anchored.reverse }

/-- The tree of a list of tokens. Each token is looked at a few times at most, which bounds the
depth of the calls. -/
def ofTokens (tokens : List Token) : Except Error Document :=
  if tokens.isEmpty then .ok (ofRoot .blank)
  else do
    let (root, state) ← (Parse.root (4 * tokens.length + 4)).run { tokens }
    Parse.finish state.tokens
    return ofRoot root

def ofChars (text : List Char) : Except Error Document := Token.ofText text >>= ofTokens

def ofText (text : String) : Except Error Document := Source.ofText text >>= ofChars

def ofBytes (bytes : Text.Bytes) : Except Error Document := Source.ofBytes bytes >>= ofChars

/-- How many aliases may be followed while the document is read. -/
def aliasLimit (d : Document) : Nat := 100 * d.root.weight

end Document
end ServiceAtlas.Yaml
