import ServiceAtlas.Record.Basic

/-!
# Data as rendered

A tree of mappings and sequences, which the writers of the output formats turn into text. The datum
of a record leaves out unset fields and empty collections.
-/
namespace ServiceAtlas

inductive Datum where
  | text (value : String)
  | integer (value : Int)
  | boolean (value : Bool)
  | sequence (items : List Datum)
  | mapping (entries : List (String × Datum))
deriving Repr

/-- A value of a field. -/
def FieldType.datum : (t : FieldType) → t.Carrier → Datum
  | .text, value => .text value
  | .integer, value => .integer value
  | .boolean, value => .boolean value

/-- The set values under the keys of their fields. -/
def Row.entries : {fs : List Field} → Row fs → List (String × Datum)
  | [], () => []
  | f :: _, (value, row) =>
    (value.toList.map fun v => (f.key, f.type.datum v)) ++ row.entries

/-- The collections that are not empty under their keys. -/
def Collections.entries : {s : Schema} → Collections s → List (String × Datum)
  | .nil, () => []
  | .cons key .., (c, rest) =>
    (if c.isEmpty then []
      else
        [(key, .sequence (c.instances.map fun i =>
          .mapping (i.values.entries ++ i.nested.entries)))])
      ++ rest.entries

def Record.datum (r : Record) : Datum := .mapping r.collections.entries

end ServiceAtlas
