import ServiceAtlas.Error
import ServiceAtlas.Record.Basic
import ServiceAtlas.Text.Cut

/-!
# Object paths

A path such as `all.postgresql.database.scheme.name` has a free root, and keywords that lead to a
field of the record. Paths are resolved when a template is compiled; what is left for a document is
the conversion and the writing of a value.
-/
namespace ServiceAtlas

/-- A change of a record that may stop at an error and then keeps what was done before. -/
abbrev RecordM := ExceptT ExtractError (StateM Record)

namespace RecordM

/-- The result of a change and the record after it. -/
def runOn {α : Type} (m : RecordM α) (r : Record) : Except ExtractError α × Record :=
  Id.run (StateT.run (ExceptT.run m) r)

end RecordM

/-- A field of the record together with the path that named it. -/
structure Target where
  path : String
  address : Address Schema.record
deriving DecidableEq

namespace Target

/-- The parts of a path between its dots. -/
def parts (path : String) : List String := (Text.splitAt '.' path.toList).map String.ofList

def resolve (path : String) : Except ExtractError Target :=
  match Schema.record.address? (parts path).tail with
  | some address => .ok ⟨path, address⟩
  | none => .error (.invalidPath path)

/-- Converts a text to the type of the field and writes it; a text that does not convert leaves the
record as it is. -/
def store (t : Target) (text : String) : RecordM Unit :=
  match t.address.field.type.read? text with
  | some value => modify fun r => r.write t.address value
  | none => throw (.conversion t.path text t.address.field.type)

theorem path_of_resolve {path : String} {t : Target} (h : resolve path = .ok t) :
    t.path = path := by
  unfold resolve at h
  split at h
  · obtain rfl := Except.ok.inj h; rfl
  · simp at h

example : (resolve "all.kafka.queue.type").toOption.map (·.address.keywords) =
    some ["kafka", "queue", "type"] := by decide

end Target
end ServiceAtlas
