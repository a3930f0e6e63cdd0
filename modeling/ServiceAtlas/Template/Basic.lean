import ServiceAtlas.Document
import ServiceAtlas.Leaf.Setter
import ServiceAtlas.Template.Quoting

/-!
# Templates

A template has the shape of the documents it is for, with a setter in the place of each scalar. Of a
sequence only the first element counts, for every element of a document's array.
-/
namespace ServiceAtlas

inductive TemplateNode where
  /-- The children are sorted by their keys. -/
  | map (children : List (String × TemplateNode))
  | array (element : Option TemplateNode)
  | leaf (setter : Setter)

namespace TemplateNode

def kind : TemplateNode → NodeKind
  | map _ => .map
  | array _ => .array
  | leaf _ => .setter

/-- Puts an entry in its place; one with the same key is replaced. -/
def insertChild {α : Type} (key : String) (node : α) : List (String × α) → List (String × α)
  | [] => [(key, node)]
  | (other, child) :: children =>
    if key = other then (key, node) :: children
    else if key < other then (key, node) :: (other, child) :: children
    else (other, child) :: insertChild key node children

/-- Entries in the order of their keys, the last of each key. -/
def sortChildren {α : Type} (entries : List (String × α)) : List (String × α) :=
  entries.foldl (fun children (key, node) => insertChild key node children) []

def compileLeaf (text : String) : Except ExtractError TemplateNode :=
  match Setter.compile text with
  | .ok setter => .ok (.leaf setter)
  | .error cause => .error (.leaf text cause)

mutual

def compile : Yaml.Value → Except ExtractError TemplateNode
  | .null => .error (.template .emptyLeaf)
  | .boolean b => compileLeaf (Text.boolText b)
  | .integer n => compileLeaf (toString n)
  | .float x => compileLeaf x.literalText
  | .string s => compileLeaf s
  | .sequence [] => .ok (.array none)
  | .sequence (first :: _) => (compile first).map fun node => .array (some node)
  | .mapping entries => (compileEntries entries).map fun entries => .map (sortChildren entries)
  | .tagged _ value => compile value

def compileEntries :
    List (Yaml.Value × Yaml.Value) → Except ExtractError (List (String × TemplateNode))
  | [] => .ok []
  | (key, value) :: entries =>
    match Document.keyText? key with
    | none => .error (.template .keyNotScalar)
    | some key => do
      let node ← compile value
      let entries ← compileEntries entries
      return (key, node) :: entries

end

mutual

/-- The setters of a node, in the order of the keys. -/
def leaves : TemplateNode → List Setter
  | map children => leavesOfChildren children
  | array none => []
  | array (some element) => leaves element
  | leaf setter => [setter]

def leavesOfChildren : List (String × TemplateNode) → List Setter
  | [] => []
  | (_, child) :: children => leaves child ++ leavesOfChildren children

end

/-- The key that matches every key of its level without a node of its own. -/
def wildcard : String := "*"

/-- The key that holds the element of arrays found at its level. -/
def arrayKey : String := "[]"

/-- The node for a key among the children of a level. -/
def match? (children : List (String × TemplateNode)) (key : String) : Option TemplateNode :=
  (children.lookup key).or (children.lookup wildcard)

/-- What an array meets at a node: nothing that fits, or the node for its elements, if any. -/
def arrayElement? : TemplateNode → Option (Option TemplateNode)
  | array element => some element
  | map children =>
    match children.lookup arrayKey with
    | none => none
    | some (array element) => some element
    | some node => some (some node)
  | leaf _ => none

end TemplateNode

/-- A compiled template: the nodes under the keys of its root. -/
structure Template where
  root : List (String × TemplateNode)

namespace Template

def isNull : Yaml.Value → Bool
  | .null => true
  | .tagged _ value => isNull value
  | _ => false

def ofValue (value : Yaml.Value) : Except ExtractError Template :=
  if isNull value then .error (.template .empty)
  else do
    match ← TemplateNode.compile value with
    | .map root => return ⟨root⟩
    | other => throw (.template (.rootKind other.kind))

def ofText (text : String) : Except ExtractError Template :=
  match Yaml.Value.ofText (Quoting.quote text) with
  | .ok value => ofValue value
  | .error fault => .error (.template (.malformed fault))

def ofBytes (bytes : Text.Bytes) : Except ExtractError Template :=
  match Text.decodeUtf8 bytes with
  | .ok text => ofText (String.ofList text)
  | .error fault => .error (.template (.notUtf8 fault))

def leaves (t : Template) : List Setter := TemplateNode.leavesOfChildren t.root

def leafCount (t : Template) : Nat := t.leaves.length

end Template
end ServiceAtlas
