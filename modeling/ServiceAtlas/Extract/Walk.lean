import ServiceAtlas.Template.Basic

/-!
# The walk of a document

A document and a template are descended together. Each entry of a map goes to the node of its own
key, or else to that of the wildcard, or is skipped. A value whose shape does not fit its node ends
the walk, and so does the first setter that fails.
-/
namespace ServiceAtlas

namespace TemplateNode

def unsupported (key : String) (value : Document) (node : TemplateNode) : ExtractError :=
  .unsupportedShape key value.kind node.kind

/-- The name of an item of an array in messages. -/
def itemKey (key : String) (index : Nat) : String := key ++ "[" ++ toString index ++ "]"

mutual

def dispatch (key : String) (node : TemplateNode) : Document → RecordM Unit
  | .map entries =>
    match node with
    | .map children => walk children entries
    | node => throw (unsupported key (.map entries) node)
  | .array items =>
    match node.arrayElement? with
    | some (some element) => walkItems key element 0 items
    | some none => pure ()
    | none => throw (unsupported key (.array items) node)
  | .scalar scalar =>
    match node with
    | .leaf setter => setter.apply scalar.text
    | node => throw (unsupported key (.scalar scalar) node)
  | .null => throw (unsupported key .null node)

def walk (children : List (String × TemplateNode)) : List (String × Document) → RecordM Unit
  | [] => pure ()
  | (key, value) :: entries => do
    match match? children key with
    | some node => dispatch key node value
    | none => pure ()
    walk children entries

def walkItems (key : String) (element : TemplateNode) : (index : Nat) → List Document → RecordM Unit
  | _, [] => pure ()
  | index, item :: items => do
    dispatch (itemKey key index) element item
    walkItems key element (index + 1) items

end
end TemplateNode

namespace Template

/-- Walks a document whose root is a map. -/
def extractInto (t : Template) : Document → RecordM Unit
  | .map entries => TemplateNode.walk t.root entries
  | other => throw (.document (.rootKind other.kind))

/-- The record of one document, with no cursor left. -/
def extract (t : Template) (bytes : Text.Bytes) : Except ExtractError Record := do
  let document ← Document.ofBytes bytes
  match (t.extractInto document).runOn .empty with
  | (.ok (), record) => return record.release
  | (.error error, _) => throw error

end Template
end ServiceAtlas
