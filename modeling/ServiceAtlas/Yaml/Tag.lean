import ServiceAtlas.Text.Utf8

/-! Tags of a YAML text. A tag is a run of octets that need not be the text of any characters; a
zero octet ends it. -/
namespace ServiceAtlas.Yaml

structure Tag where
  octets : Text.Bytes
deriving DecidableEq, Repr

namespace Tag

/-- What stands in front of the first zero octet. -/
def untilZero (octets : Text.Bytes) : Text.Bytes := octets.takeWhile (· != 0)

def ofText (text : String) : Tag := ⟨Text.encodeUtf8 text⟩

/-- The tag of a type that the language itself has. -/
def ofType (name : String) : Tag := ofText ("tag:yaml.org,2002:" ++ name)

/-- Whether the tag begins with an exclamation mark, as those of the user's own do. -/
def isOwn (t : Tag) : Bool := t.octets.head? = some 0x21

/-- A name without the exclamation mark at its head, unless nothing else would be left. -/
def unmarked : List Char → List Char
  | ['!'] => ['!']
  | '!' :: name => name
  | name => name

/-- The name of a tag of the user's own, which must be a text. A second mark at its head counts for
as little as the first. -/
def ownName? (t : Tag) : Option String :=
  if t.isOwn then
    (Text.decodeUtf8 t.octets).toOption.map fun name => String.ofList (unmarked (unmarked name))
  else none

example : ownName? ⟨[0x21, 0x61]⟩ = some "a" ∧ ownName? ⟨[0x21, 0x21, 0x61]⟩ = some "a" := by decide
example : ownName? ⟨[0x21]⟩ = some "!" ∧ ownName? ⟨[0x21, 0x21]⟩ = some "!" := by decide

end Tag
end ServiceAtlas.Yaml
