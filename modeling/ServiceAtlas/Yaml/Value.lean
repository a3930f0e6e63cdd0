import ServiceAtlas.Yaml.Node
import ServiceAtlas.Yaml.Scalar

/-!
# Values of a YAML document

Nodes with their scalars typed, aliases replaced by what they name, and no key twice in a mapping. A
tag of the user's own is kept around its value; it has no say in the type.
-/
namespace ServiceAtlas.Yaml

inductive Value where
  | null
  | boolean (value : Bool)
  | integer (value : Int)
  | float (value : Binary64)
  | string (value : String)
  | sequence (items : List Value)
  | mapping (entries : List (Value × Value))
  | tagged (tag : String) (value : Value)
deriving Repr

namespace Value

mutual

/-- Equality of keys, whatever the order of the entries of a mapping. -/
def same : Value → Value → Bool
  | null, null => true
  | boolean b, boolean c => b == c
  | integer m, integer n => m == n
  | float x, float y => x.sameValue y
  | string s, string t => s == t
  | sequence items, sequence others => sameItems items others
  | mapping entries, mapping others =>
    entries.length == others.length && sameEntries entries others
  | tagged tag value, tagged other otherValue => tag == other && same value otherValue
  | _, _ => false

def sameItems : List Value → List Value → Bool
  | [], [] => true
  | item :: items, other :: others => same item other && sameItems items others
  | _, _ => false

def sameEntries : List (Value × Value) → List (Value × Value) → Bool
  | [], _ => true
  | (key, value) :: entries, others =>
    others.any (fun (otherKey, other) => same key otherKey && same value other)
      && sameEntries entries others

end

/-- The value of an unquoted scalar. -/
def ofPlain (text : String) : Except Error Value :=
  match Plain.ofText text with
  | .null => .ok .null
  | .boolean b => .ok (.boolean b)
  | .integer n => .ok (.integer n)
  | .wideInteger => .error .integerTooLarge
  | .float x => .ok (.float x)
  | .string => .ok (.string text)

/-- The value of a scalar that its tag gives a type. -/
def ofTypedScalar (tag : Tag) (text : String) : Except Error Value :=
  let chars := text.toList
  if tag = .ofType "bool" then
    match Plain.boolean? text with
    | some b => .ok (.boolean b)
    | none => .error (.wrongType "a boolean")
  else if tag = .ofType "int" then
    match Plain.integer? chars with
    | some n => .ok (.integer n)
    | none => .error (.wrongType "an integer")
  else if tag = .ofType "float" then
    match Plain.float? chars with
    | some x => .ok (.float x)
    | none => .error (.wrongType "a float")
  else if tag = .ofType "null" then
    if Plain.isNullWord text then .ok .null else .error (.wrongType "null")
  else .ok (.string text)

/-- Keeps a tag of the user's own around a value. -/
def wrap (tag : Option Tag) (value : Value) : Value :=
  match tag.bind Tag.ownName? with
  | some name => .tagged name value
  | none => value

/-- The value of a scalar that no tag gives a type. -/
def ofUntypedScalar (style : ScalarStyle) (text : String) : Except Error Value :=
  if style = .plain then ofPlain text else .ok (.string text)

def ofScalar (tag : Option Tag) (style : ScalarStyle) (text : String) : Except Error Value :=
  match tag with
  | none => ofUntypedScalar style text
  | some tag =>
    if tag.isOwn then (ofUntypedScalar style text).map (wrap tag) else ofTypedScalar tag text

end Value

/-- Reading of a document, with the number of aliases followed. -/
abbrev Reading := StateT Nat (Except Error)

namespace Document

/-- The node that an alias names; other nodes stand for themselves. -/
def follow (d : Document) : Node → Reading Node
  | .reference n => do
    let followed := (← get) + 1
    set followed
    if d.aliasLimit < followed then throw .tooManyAliases
    match d.anchored.lookup n with
    | some node => return node
    | none => throw (.unknownAnchor (toString n))
  | node => return node

/-- Reads entries one after the other, refusing a key that is there already. -/
def readEntries (read : Node → Reading Value) :
    (done : List (Value × Value)) → List (Node × Node) → Reading (List (Value × Value))
  | done, [] => return done.reverse
  | done, (key, value) :: entries => do
    let key ← read key
    if done.any fun (other, _) => key.same other then throw .duplicateKey
    let value ← read value
    readEntries read ((key, value) :: done) entries

/-- The value of a node whose collections are nested at most `depth` deep. -/
def read (d : Document) : (depth : Nat) → Node → Reading Value
  | 0, node => do
    match ← d.follow node with
    | .scalar _ tag style text => Value.ofScalar tag style text
    | _ => throw .nestedTooDeep
  | depth + 1, node => do
    match ← d.follow node with
    | .scalar _ tag style text => Value.ofScalar tag style text
    | .sequence _ tag items => return .wrap tag (.sequence (← items.mapM (d.read depth)))
    | .mapping _ tag entries =>
      return .wrap tag (.mapping (← readEntries (d.read depth) [] entries))
    | .reference n => throw (.unknownAnchor (toString n))

/-- How deep collections may be nested. -/
def maxDepth : Nat := 128

def value (d : Document) : Except Error Value := (d.read maxDepth d.root).run' 0

end Document

namespace Value

def ofText (text : String) : Except Error Value := Document.ofText text >>= Document.value

def ofBytes (bytes : Text.Bytes) : Except Error Value := Document.ofBytes bytes >>= Document.value

end Value
end ServiceAtlas.Yaml
