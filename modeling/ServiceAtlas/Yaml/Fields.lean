import ServiceAtlas.Yaml.Value

/-!
# Fields of a YAML mapping

Reading of a node whose type is known beforehand. A text is a scalar as written, whatever its tag;
where a sequence or a mapping is called for, nothing at all stands for an empty one.
-/
namespace ServiceAtlas.Yaml.Document

def text (d : Document) (node : Node) : Reading String := do
  match ← d.follow node with
  | .scalar _ _ _ text => return text
  | _ => throw (.wrongType "a text")

/-- Whether a scalar can be an integer: a plain one can, and a literal one that its tag says is. -/
def canBeInteger (tag : Option Tag) (style : ScalarStyle) : Bool :=
  style = .plain || (style = .literal && tag = some (.ofType "int"))

/-- An integer of 64 bits. -/
def integer (d : Document) (node : Node) : Reading Int := do
  match ← d.follow node with
  | .scalar _ tag style text =>
    unless canBeInteger tag style do throw (.wrongType "an integer")
    match Plain.integer? text.toList with
    | some n =>
      if n ≤ Text.maxInt64 then return n
      else throw .integerTooLarge
    | none => throw (.wrongType "an integer")
  | _ => throw (.wrongType "an integer")

def items (d : Document) (node : Node) : Reading (List Node) := do
  match ← d.follow node with
  | .sequence _ _ items => return items
  | .scalar _ _ .plain "" => return []
  | _ => throw (.wrongType "a sequence")

/-- Adds to `done` the entries whose keys are among `names`, none of which may come twice. -/
def fieldsFrom (d : Document) (names : List String) :
    (done : List (String × Node)) → List (Node × Node) → Reading (List (String × Node))
  | done, [] => return done
  | done, (key, value) :: entries => do
    let key ← d.text key
    if key ∉ names then d.fieldsFrom names done entries
    else if (done.lookup key).isSome then throw (.duplicateField key)
    else d.fieldsFrom names ((key, value) :: done) entries

/-- The entries of a mapping under the given names; other entries are passed over. -/
def fields (d : Document) (names : List String) (node : Node) : Reading (List (String × Node)) := do
  match ← d.follow node with
  | .mapping _ _ entries => d.fieldsFrom names [] entries
  | .scalar _ _ .plain "" => return []
  | _ => throw (.wrongType "a mapping")

/-- The value of a field that must be there. -/
def required {α : Type} (name : String) (read : Node → Reading α) (fields : List (String × Node)) :
    Reading α :=
  match fields.lookup name with
  | some node => read node
  | none => throw (.missingField name)

/-- The value of a field that may be left out. -/
def optional {α : Type} (name : String) (default : α) (read : Node → Reading α)
    (fields : List (String × Node)) : Reading α :=
  match fields.lookup name with
  | some node => read node
  | none => return default

end ServiceAtlas.Yaml.Document
