import ServiceAtlas.Proofs.Record.Runs
import ServiceAtlas.Proofs.Record.Values
import ServiceAtlas.Proofs.Text.Pieces

/-!
# The vocabulary of object paths

A path is a free root without dots, a dot, and a suffix that names a field. The suffix tells under
which keys the field is rendered, with nested collections in the singular. Each field has one suffix
and each suffix one field, so that the root of a path changes nothing but the texts of its errors.
-/
namespace ServiceAtlas

namespace Address

/-- The keys that the field is rendered under: of the collections on the way, and its own. -/
def keys : {s : Schema} → Address s → List String
  | .cons key .., scalar slot => [key, slot.field.key]
  | .cons key .., inside a => key :: a.keys
  | .cons .., beside a => a.keys

/-- How a key is spelled in a path. -/
def spelling : String → String
  | "ports" => "port"
  | "queues" => "queue"
  | "databases" => "database"
  | "namespaces" => "namespace"
  | "sentinels" => "sentinel"
  | "schemes" => "scheme"
  | "queue_type" => "type"
  | key => key

/-- What a path to the field has behind its root and the dot after it. -/
def suffix {s : Schema} (a : Address s) : String := ".".intercalate (a.keys.map spelling)

theorem keywords_eq : ∀ a : Address Schema.record, a.keywords = a.keys.map spelling := by
  have h : ∀ a ∈ all Schema.record, a.keywords = a.keys.map spelling := by decide +kernel
  exact fun a => h a (mem_all a)

theorem keywords_ne_nil {s : Schema} (a : Address s) : a.keywords ≠ [] := by
  induction a with
  | scalar slot => exact List.cons_ne_nil _ _
  | inside a ih => exact List.cons_ne_nil _ _
  | beside a ih => exact ih

theorem dot_notMem_of_mem_keywords :
    ∀ a : Address Schema.record, ∀ keyword ∈ a.keywords, '.' ∉ keyword.toList := by
  have h : ∀ a ∈ all Schema.record, ∀ keyword ∈ a.keywords, '.' ∉ keyword.toList := by
    decide +kernel
  exact fun a => h a (mem_all a)

end Address

namespace Target

/-- The suffixes of the record: under each collection those of its fields. -/
def vocabulary : List String :=
  [("service", ["name", "full_name", "project_id", "tag"]), ("service.port", ["number"]),
    ("other_service", ["name"]), ("other_service.port", ["number"]),
    ("kafka", ["name", "host", "port"]), ("kafka.queue", ["name", "type", "topic", "type_name"]),
    ("redis", ["host", "port", "master"]), ("redis.database", ["name"]),
    ("redis.database.namespace", ["name"]), ("redis.sentinel", ["host", "port"]),
    ("postgresql", ["host", "port", "user"]), ("postgresql.database", ["name", "for_migrations"]),
    ("postgresql.database.scheme", ["name"]),
    ("rabbitmq", ["host", "port", "user"]), ("rabbitmq.queue", ["name"])].flatMap
      fun (collection, fields) => fields.map fun field => collection ++ "." ++ field

theorem map_suffix_all : (Address.all Schema.record).map Address.suffix = vocabulary := by
  decide +kernel

/-- The suffix leads to the field, whatever the root before it. -/
def Names (suffix : String) (a : Address Schema.record) : Prop :=
  ∀ root, '.' ∉ root.toList → resolve (root ++ "." ++ suffix) = .ok ⟨root ++ "." ++ suffix, a⟩

theorem dot_notMem_of_mem_parts {text piece : String} (h : piece ∈ parts text) :
    '.' ∉ piece.toList := by
  rw [parts, Text.splitAt_eq_splitOn] at h
  obtain ⟨chars, hchars, rfl⟩ := List.mem_map.mp h
  rw [String.toList_ofList]
  exact Text.notMem_of_mem_splitOn hchars

theorem intercalate_parts (text : String) : ".".intercalate (parts text) = text := by
  have hpieces : (text.toList.splitOn '.').map (String.toList ∘ String.ofList) =
      text.toList.splitOn '.' := by simp [Function.comp_def]
  rw [← String.toList_inj, String.toList_intercalate, parts, Text.splitAt_eq_splitOn, List.map_map,
    hpieces]
  exact List.intercalate_splitOn '.'

theorem parts_intercalate {pieces : List String} (h : ∀ piece ∈ pieces, '.' ∉ piece.toList)
    (hne : pieces ≠ []) : parts (".".intercalate pieces) = pieces := by
  have hsplit : (['.'].intercalate (pieces.map String.toList)).splitOn '.' =
      pieces.map String.toList :=
    List.splitOn_intercalate '.' (List.forall_mem_map.mpr h) (mt List.map_eq_nil_iff.mp hne)
  rw [parts, String.toList_intercalate, Text.splitAt_eq_splitOn]
  simpa [Function.comp_def] using congrArg (List.map String.ofList) hsplit

theorem parts_append {root : String} (h : '.' ∉ root.toList) (suffix : String) :
    parts (root ++ "." ++ suffix) = root :: parts suffix := by
  have htext : (root ++ "." ++ suffix).toList = root.toList ++ '.' :: suffix.toList := by simp
  rw [parts, htext, Text.splitAt_eq_splitOn, List.splitOn_append_cons_self_of_not_mem h,
    List.map_cons, String.ofList_toList, ← Text.splitAt_eq_splitOn]
  rfl

theorem parts_eq_keywords_iff {suffix : String} {a : Address Schema.record} :
    parts suffix = a.keywords ↔ suffix = a.suffix := by
  rw [Address.suffix, ← a.keywords_eq]
  constructor
  · intro h
    rw [← h, intercalate_parts]
  · rintro rfl
    exact parts_intercalate a.dot_notMem_of_mem_keywords a.keywords_ne_nil

theorem resolve_eq_ok_iff {path : String} {t : Target} :
    resolve path = .ok t ↔ t.path = path ∧ (parts path).tail = t.address.keywords := by
  constructor
  · intro h
    refine ⟨path_of_resolve h, ?_⟩
    unfold resolve at h
    split at h
    · next a ha =>
      obtain rfl := Except.ok.inj h
      exact (Address.keywords_of_address? ha).symm
    · cases h
  · rintro ⟨rfl, h⟩
    rw [resolve, h, Schema.address?_keywords _ (Address.mem_all _)]

theorem eq_invalidPath_of_resolve {path : String} {e : ExtractError} (h : resolve path = .error e) :
    e = .invalidPath path := by
  unfold resolve at h
  split at h
  · cases h
  · exact (Except.error.inj h).symm

/-- A path resolves just when it is a root, a dot and the suffix of the field. -/
theorem resolve_eq_ok_iff_suffix {path : String} {t : Target} :
    resolve path = .ok t ↔
      t.path = path ∧ ∃ root, '.' ∉ root.toList ∧ path = root ++ "." ++ t.address.suffix := by
  rw [resolve_eq_ok_iff]
  refine and_congr_right fun _ => ?_
  constructor
  · intro h
    cases hparts : parts path with
    | nil =>
      rw [hparts] at h
      exact absurd h.symm t.address.keywords_ne_nil
    | cons root rest =>
      rw [hparts, List.tail_cons] at h
      refine ⟨root, dot_notMem_of_mem_parts (hparts ▸ List.mem_cons_self), ?_⟩
      rw [← intercalate_parts path, hparts, h,
        String.intercalate_cons_of_ne_nil t.address.keywords_ne_nil, t.address.keywords_eq,
        Address.suffix]
  · rintro ⟨root, hroot, rfl⟩
    rw [parts_append hroot, List.tail_cons, parts_eq_keywords_iff]

theorem names_iff {suffix : String} {a : Address Schema.record} :
    Names suffix a ↔ suffix = a.suffix := by
  constructor
  · intro h
    have hempty : resolve ("" ++ "." ++ suffix) = .ok ⟨"" ++ "." ++ suffix, a⟩ := h "" (by decide)
    have htail := (resolve_eq_ok_iff.mp hempty).2
    rw [parts_append (by decide), List.tail_cons] at htail
    exact parts_eq_keywords_iff.mp htail
  · rintro rfl root hroot
    exact resolve_eq_ok_iff_suffix.mpr ⟨rfl, root, hroot, rfl⟩

theorem mem_vocabulary_iff {suffix : String} :
    suffix ∈ vocabulary ↔ ∃ a : Address Schema.record, a.suffix = suffix := by
  rw [← map_suffix_all, List.mem_map]
  exact exists_congr fun a => and_iff_right (Address.mem_all a)

/-- A field has no other suffix, and a suffix no other field. -/
theorem suffix_injective {a b : Address Schema.record} (h : a.suffix = b.suffix) : a = b := by
  have ha := names_iff.mpr (rfl : a.suffix = a.suffix) "" (by decide)
  have hb := names_iff.mpr h "" (by decide)
  exact (Target.mk.inj (Except.ok.inj (ha.symm.trans hb))).2

section
variable {root root' suffix : String} {a : Address Schema.record}

theorem storeAt_of_names (h : Names suffix a) (hroot : '.' ∉ root.toList) (text : String) :
    storeAt (root ++ "." ++ suffix) text = store ⟨root ++ "." ++ suffix, a⟩ text := by
  rw [storeAt, h root hroot]

/-- Two roots make no difference to what is written. -/
theorem runOn_storeAt_of_names (h : Names suffix a) (hroot : '.' ∉ root.toList)
    (hroot' : '.' ∉ root'.toList) (text : String) (r : Record) :
    (∃ r', (storeAt (root ++ "." ++ suffix) text).runOn r = (.ok (), r') ∧
        (storeAt (root' ++ "." ++ suffix) text).runOn r = (.ok (), r')) ∨
      ∃ type, (storeAt (root ++ "." ++ suffix) text).runOn r =
          (.error (.conversion (root ++ "." ++ suffix) text type), r) ∧
        (storeAt (root' ++ "." ++ suffix) text).runOn r =
          (.error (.conversion (root' ++ "." ++ suffix) text type), r) := by
  simp only [storeAt_of_names h hroot, storeAt_of_names h hroot', runOn_store, write?]
  cases a.field.type.read? text with
  | some v => exact Or.inl ⟨_, rfl, rfl⟩
  | none => exact Or.inr ⟨_, rfl, rfl⟩

theorem values_of_storeAt {b : Address Schema.record} (h : Names suffix a) (hne : a ≠ b)
    (hroot : '.' ∉ root.toList) {text : String} {r r' : Record}
    (hr : (storeAt (root ++ "." ++ suffix) text).runOn r = (.ok (), r')) :
    r'.values b = r.values b := by
  rw [storeAt_of_names h hroot, runOn_store, write?] at hr
  cases hv : a.field.type.read? text with
  | none => simp [hv] at hr
  | some v =>
    obtain rfl : r.put ⟨a, v⟩ = r' := by simpa [hv] using hr
    exact Collections.values_write_of_ne hne v r.collections

end

/-- A path resolves just when it is a root without dots, a dot and a suffix of the vocabulary, and
otherwise it is the path that is invalid. Each field is named by one suffix, spelled after its keys,
and each suffix names one field. A text stored through two paths with the same suffix has the same
outcome and leaves the same record, and once it is stored the values of every field with another
suffix are those before. -/
theorem resolve_vocabulary :
    (∀ path, (∃ t, resolve path = .ok t) ↔
      ∃ root suffix, '.' ∉ root.toList ∧ suffix ∈ vocabulary ∧ path = root ++ "." ++ suffix) ∧
    (∀ path e, resolve path = .error e → e = .invalidPath path) ∧
    (∀ suffix a, Names suffix a ↔ suffix = a.suffix) ∧
    ((∀ a, ∃! suffix, Names suffix a) ∧ ∀ suffix ∈ vocabulary, ∃! a, Names suffix a) ∧
    (∀ root root' suffix, '.' ∉ root.toList → '.' ∉ root'.toList → suffix ∈ vocabulary →
      ∀ text r,
        (∃ r', (storeAt (root ++ "." ++ suffix) text).runOn r = (.ok (), r') ∧
            (storeAt (root' ++ "." ++ suffix) text).runOn r = (.ok (), r')) ∨
          ∃ type, (storeAt (root ++ "." ++ suffix) text).runOn r =
              (.error (.conversion (root ++ "." ++ suffix) text type), r) ∧
            (storeAt (root' ++ "." ++ suffix) text).runOn r =
              (.error (.conversion (root' ++ "." ++ suffix) text type), r)) ∧
    ∀ root suffix other b, '.' ∉ root.toList → suffix ∈ vocabulary → Names other b →
      suffix ≠ other → ∀ text r r',
        (storeAt (root ++ "." ++ suffix) text).runOn r = (.ok (), r') →
          r'.values b = r.values b := by
  refine ⟨?_, fun _ _ => eq_invalidPath_of_resolve, fun _ _ => names_iff, ⟨?_, ?_⟩, ?_, ?_⟩
  · intro path
    constructor
    · rintro ⟨t, ht⟩
      obtain ⟨-, root, hroot, hpath⟩ := resolve_eq_ok_iff_suffix.mp ht
      exact ⟨root, t.address.suffix, hroot, mem_vocabulary_iff.mpr ⟨_, rfl⟩, hpath⟩
    · rintro ⟨root, suffix, hroot, hsuffix, rfl⟩
      obtain ⟨a, rfl⟩ := mem_vocabulary_iff.mp hsuffix
      exact ⟨_, names_iff.mpr rfl root hroot⟩
  · intro a
    exact ⟨a.suffix, names_iff.mpr rfl, fun suffix h => names_iff.mp h⟩
  · intro suffix hsuffix
    obtain ⟨a, rfl⟩ := mem_vocabulary_iff.mp hsuffix
    exact ⟨a, names_iff.mpr rfl, fun b hb => (suffix_injective (names_iff.mp hb)).symm⟩
  · intro root root' suffix hroot hroot' hsuffix text r
    obtain ⟨a, ha⟩ := mem_vocabulary_iff.mp hsuffix
    exact runOn_storeAt_of_names (names_iff.mpr ha.symm) hroot hroot' text r
  · intro root suffix other b hroot hsuffix hb hne text r r' hr
    obtain ⟨a, ha⟩ := mem_vocabulary_iff.mp hsuffix
    refine values_of_storeAt (names_iff.mpr ha.symm) ?_ hroot hr
    rintro rfl
    exact hne (ha.symm.trans (names_iff.mp hb).symm)

/-- The type of a queue, whose keyword is not its key, and the name of that type beside it. -/
theorem resolve_vocabulary_queue :
    let a : Address Schema.record := .beside (.beside (.inside (.scalar (.there .here))))
    let b : Address Schema.record :=
      .beside (.beside (.inside (.scalar (.there (.there (.there .here))))))
    let stored := (storeAt "all.kafka.queue.type" "fifo").runOn .empty
    a.keys = ["kafka", "queues", "queue_type"] ∧ Names "kafka.queue.type" a ∧
      Names "kafka.queue.type_name" b ∧ (∃ t, resolve ".kafka.queue.type" = .ok t) ∧
      (∃ e, resolve "all.kafka.queue" = .error e ∧ e = .invalidPath "all.kafka.queue") ∧
      (∃! c, Names "kafka.queue.type" c) ∧
      ((∃ r', stored = (.ok (), r') ∧
          (storeAt ".kafka.queue.type" "fifo").runOn .empty = (.ok (), r')) ∨
        ∃ type, stored = (.error (.conversion "all.kafka.queue.type" "fifo" type), .empty) ∧
          (storeAt ".kafka.queue.type" "fifo").runOn .empty =
            (.error (.conversion ".kafka.queue.type" "fifo" type), .empty)) ∧
      stored.1 = .ok () ∧ stored.2.values b = [] := by
  intro a b stored
  obtain ⟨haccepted, hrejected, hnames, ⟨-, hone⟩, hsame, hother⟩ := resolve_vocabulary
  have hmem : "kafka.queue.type" ∈ vocabulary := by decide +kernel
  have ha : Names "kafka.queue.type" a := (hnames _ _).mpr (by decide +kernel)
  have hb : Names "kafka.queue.type_name" b := (hnames _ _).mpr (by decide +kernel)
  have hstored : stored.1 = .ok () := by decide +kernel
  have hshort : resolve "all.kafka.queue" = .error (.invalidPath "all.kafka.queue") := by
    decide +kernel
  refine ⟨by decide, ha, hb, ?_, ?_, hone _ hmem, ?_, hstored, ?_⟩
  · exact (haccepted _).mpr ⟨"", "kafka.queue.type", by decide, hmem, by decide⟩
  · exact ⟨_, hshort, hrejected _ _ hshort⟩
  · exact hsame "all" "" "kafka.queue.type" (by decide) (by decide) hmem "fifo" .empty
  · exact hother "all" _ _ b (by decide) hmem hb (by decide) "fifo" .empty stored.2
      (Prod.ext hstored rfl)

end Target
end ServiceAtlas
