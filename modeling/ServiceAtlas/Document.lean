import ServiceAtlas.Error
import ServiceAtlas.Decimal.Shortest
import ServiceAtlas.Yaml.Value

/-! Documents: decoded configuration, whose root is a mapping. -/
namespace ServiceAtlas

inductive Scalar where
  | string (value : String)
  | integer (value : Int)
  | boolean (value : Bool)
  | float (value : Binary64)
deriving DecidableEq, Repr

/-- The text that setters are given. -/
def Scalar.text : Scalar → String
  | string value => value
  | integer value => toString value
  | boolean value => Text.boolText value
  | float value => value.plainText

/-- Entries keep the order of the text. -/
inductive Document where
  | map (entries : List (String × Document))
  | array (items : List Document)
  | scalar (scalar : Scalar)
  | null
deriving Repr

namespace Document

def kind : Document → DocumentKind
  | map _ => .map
  | array _ => .array
  | scalar _ => .scalar
  | null => .null

/-- The text of a key, which must be a scalar. -/
def keyText? : Yaml.Value → Option String
  | .null => some "null"
  | .boolean b => some (Scalar.boolean b).text
  | .integer n => some (Scalar.integer n).text
  | .float x => some (Scalar.float x).text
  | .string s => some s
  | .tagged _ value => keyText? value
  | .sequence _ | .mapping _ => none

mutual

/-- Tags of the user's own are dropped. -/
def ofValue : Yaml.Value → Except ExtractError Document
  | .null => .ok .null
  | .boolean b => .ok (.scalar (.boolean b))
  | .integer n => .ok (.scalar (.integer n))
  | .float x => .ok (.scalar (.float x))
  | .string s => .ok (.scalar (.string s))
  | .sequence items => (ofItems items).map .array
  | .mapping entries => (ofEntries entries).map .map
  | .tagged _ value => ofValue value

def ofItems : List Yaml.Value → Except ExtractError (List Document)
  | [] => .ok []
  | item :: items => do
    let item ← ofValue item
    let items ← ofItems items
    return item :: items

def ofEntries : List (Yaml.Value × Yaml.Value) → Except ExtractError (List (String × Document))
  | [] => .ok []
  | (key, value) :: entries =>
    match keyText? key with
    | none => .error (.document .keyNotScalar)
    | some key => do
      let value ← ofValue value
      let entries ← ofEntries entries
      return (key, value) :: entries

end

/-- The document of a value whose root is a mapping; nothing at all counts as an empty one. -/
def ofRoot (value : Yaml.Value) : Except ExtractError Document := do
  match ← ofValue value with
  | .null => return .map []
  | .map entries => return .map entries
  | other => throw (.document (.rootKind other.kind))

def ofBytes (bytes : Text.Bytes) : Except ExtractError Document :=
  match Yaml.Value.ofBytes bytes with
  | .ok value => ofRoot value
  | .error fault => .error (.document (.malformed fault))

end Document
end ServiceAtlas
