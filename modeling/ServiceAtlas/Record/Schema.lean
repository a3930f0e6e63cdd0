import ServiceAtlas.Text.Integer

/-!
# What a record can hold

A record lists the services, queues, databases and caches found in a document. Its schema is a
value: collections beside one another, each with the scalar fields of its instances and the
collections nested in them. An `Address` names one scalar field of one collection.
-/
namespace ServiceAtlas

inductive FieldType where
  | text
  | integer
  | boolean
deriving DecidableEq, Repr

namespace FieldType

def name : FieldType → String
  | text => "text"
  | integer => "integer"
  | boolean => "boolean"

/-- The values of a field; integers are those of 64 bits. -/
abbrev Carrier : FieldType → Type
  | text => String
  | integer => Int
  | boolean => Bool

instance instDecidableEqCarrier : (t : FieldType) → DecidableEq t.Carrier
  | text => inferInstanceAs (DecidableEq String)
  | integer => inferInstanceAs (DecidableEq Int)
  | boolean => inferInstanceAs (DecidableEq Bool)

/-- The value that a text stands for, if it is one of this type. -/
def read? : (t : FieldType) → String → Option t.Carrier
  | text, raw => some raw
  | integer, raw => (Text.readInt64 raw.toList).toOption
  | boolean, raw => Text.readBool raw

end FieldType

/-- A scalar field: its key in a rendered record, its type, and its keyword in a path. -/
structure Field where
  key : String
  type : FieldType
  keyword : String
deriving DecidableEq, Repr

namespace Field

def text (key : String) : Field := ⟨key, .text, key⟩
def integer (key : String) : Field := ⟨key, .integer, key⟩
def boolean (key : String) : Field := ⟨key, .boolean, key⟩

/-- The field under another keyword than its key. -/
def spelled (keyword : String) (f : Field) : Field := { f with keyword }

end Field

/-- Collections beside one another: the key and the keyword of the first, the fields of its
instances and the collections nested in them, and the remaining collections. -/
inductive Schema where
  | nil
  | cons (key keyword : String) (fields : List Field) (nested rest : Schema)
deriving DecidableEq, Repr

/-- The place of one field in a list of them. -/
inductive Slot : List Field → Type where
  | here {f : Field} {fs : List Field} : Slot (f :: fs)
  | there {f : Field} {fs : List Field} (slot : Slot fs) : Slot (f :: fs)
deriving DecidableEq

namespace Slot

def field : {fs : List Field} → Slot fs → Field
  | f :: _, here => f
  | _ :: _, there slot => slot.field

def ofKeyword? (keyword : String) : (fs : List Field) → Option (Slot fs)
  | [] => none
  | f :: fs => if f.keyword = keyword then some here else (ofKeyword? keyword fs).map there

/-- Every place in a list of fields, in order. -/
def all : (fs : List Field) → List (Slot fs)
  | [] => []
  | _ :: fs => here :: (all fs).map there

theorem mem_all : {fs : List Field} → (slot : Slot fs) → slot ∈ all fs
  | _ :: _, here => by simp [all]
  | _ :: _, there slot => by simp [all, mem_all slot]

theorem keyword_of_ofKeyword? {keyword : String} : {fs : List Field} → {slot : Slot fs} →
    ofKeyword? keyword fs = some slot → slot.field.keyword = keyword
  | f :: fs, slot, h => by
    unfold ofKeyword? at h
    split at h
    · next hk =>
      obtain rfl : here = slot := by simpa using h
      exact hk
    · obtain ⟨s, hs, rfl⟩ := Option.map_eq_some_iff.1 h
      exact (keyword_of_ofKeyword? hs : s.field.keyword = keyword)

end Slot

/-- One scalar field of one collection: a field of the first collection, or an address in the
collections nested in it or beside it. -/
inductive Address : Schema → Type where
  | scalar {key keyword : String} {fields : List Field} {nested rest : Schema}
    (slot : Slot fields) : Address (.cons key keyword fields nested rest)
  | inside {key keyword : String} {fields : List Field} {nested rest : Schema}
    (a : Address nested) : Address (.cons key keyword fields nested rest)
  | beside {key keyword : String} {fields : List Field} {nested rest : Schema}
    (a : Address rest) : Address (.cons key keyword fields nested rest)
deriving DecidableEq

namespace Address

def field : {s : Schema} → Address s → Field
  | .cons .., scalar slot => slot.field
  | .cons .., inside a => a.field
  | .cons .., beside a => a.field

/-- The type of the value that the addressed field holds. -/
abbrev Carrier {s : Schema} (a : Address s) : Type := a.field.type.Carrier

/-- The keywords that lead to the field: of the collections on the way, and of the field itself. -/
def keywords : {s : Schema} → Address s → List String
  | .cons _ keyword .., scalar slot => [keyword, slot.field.keyword]
  | .cons _ keyword .., inside a => keyword :: a.keywords
  | .cons .., beside a => a.keywords

/-- Every address of a schema: the fields of a collection come before those nested in it. -/
def all : (s : Schema) → List (Address s)
  | .nil => []
  | .cons _ _ fields nested rest =>
    (Slot.all fields).map scalar ++ (all nested).map inside ++ (all rest).map beside

theorem mem_all : {s : Schema} → (a : Address s) → a ∈ all s
  | .cons .., scalar slot => by simp [all, Slot.mem_all slot]
  | .cons .., inside a => by simp [all, mem_all a]
  | .cons .., beside a => by simp [all, mem_all a]

end Address

namespace Schema

/-- The address that a list of keywords leads to. The last keyword names a field, those before it
collections. -/
def address? : (s : Schema) → List String → Option (Address s)
  | .nil, _ => none
  | .cons .., [] => none
  | .cons _ keyword fields nested rest, k :: ks =>
    if k = keyword then
      match ks with
      | [name] => (Slot.ofKeyword? name fields).map .scalar
      | _ => (nested.address? ks).map .inside
    else (rest.address? (k :: ks)).map .beside

def ports : Schema := .cons "ports" "port" [.integer "number"] .nil .nil

def kafkaQueues : Schema :=
  .cons "queues" "queue"
    [.text "name", (Field.text "queue_type").spelled "type", .text "topic", .text "type_name"]
    .nil .nil

def redisNested : Schema :=
  .cons "databases" "database" [.text "name"]
    (.cons "namespaces" "namespace" [.text "name"] .nil .nil) <|
  .cons "sentinels" "sentinel" [.text "host", .integer "port"] .nil .nil

/-- The caches, with `rest` beside them. -/
def redis (rest : Schema) : Schema :=
  .cons "redis" "redis" [.text "host", .integer "port", .text "master"] redisNested rest

def postgresqlDatabases : Schema :=
  .cons "databases" "database" [.text "name", .boolean "for_migrations"]
    (.cons "schemes" "scheme" [.text "name"] .nil .nil) .nil

def rabbitQueues : Schema := .cons "queues" "queue" [.text "name"] .nil .nil

/-- The collections of a record. -/
def record : Schema :=
  .cons "service" "service"
    [.text "name", .text "full_name", .integer "project_id", .text "tag"] ports <|
  .cons "other_service" "other_service" [.text "name"] ports <|
  .cons "kafka" "kafka" [.text "name", .text "host", .integer "port"] kafkaQueues <|
  redis <|
  .cons "postgresql" "postgresql" [.text "host", .integer "port", .text "user"]
    postgresqlDatabases <|
  .cons "rabbitmq" "rabbitmq" [.text "host", .integer "port", .text "user"] rabbitQueues .nil

end Schema

theorem Address.keywords_of_address? : {s : Schema} → {ks : List String} → {a : Address s} →
    s.address? ks = some a → a.keywords = ks
  | .cons _ keyword _ nested rest, k :: ks, a, h => by
    unfold Schema.address? at h
    split at h
    · next hk =>
      split at h
      · obtain ⟨slot, hs, rfl⟩ := Option.map_eq_some_iff.1 h
        simp [keywords, hk, Slot.keyword_of_ofKeyword? hs]
      · obtain ⟨b, hb, rfl⟩ := Option.map_eq_some_iff.1 h
        simp [keywords, hk, keywords_of_address? hb]
    · obtain ⟨b, hb, rfl⟩ := Option.map_eq_some_iff.1 h
      exact (keywords_of_address? hb : b.keywords = k :: ks)

/-- Each field of a record is found again from the keywords that lead to it. -/
theorem Schema.address?_keywords :
    ∀ a ∈ Address.all Schema.record, Schema.record.address? a.keywords = some a := by
  decide

end ServiceAtlas
