import ServiceAtlas.Datum.Basic
import ServiceAtlas.Extract.Walk
import ServiceAtlas.Proofs.Leaf.Compiled
import ServiceAtlas.Proofs.Record.Runs
import ServiceAtlas.Proofs.Record.Values
import ServiceAtlas.Proofs.Yaml.Integers

/-!
# Integers and booleans on their way to a field

A scalar of a document comes to a setter as a text, which the field converts back. Integers and
booleans come through unchanged, and one that the field cannot hold is refused.
-/
namespace ServiceAtlas

namespace FieldType

theorem exists_read?_integer {type : FieldType} (h : type = .integer) {n : Int}
    (hlow : -(2 ^ 63) ≤ n) (hhigh : n < 2 ^ 63) :
    ∃ v, type.read? (toString n) = some v ∧ type.datum v = .integer n := by
  subst h
  have hread : Text.readInt64 (toString n).toList = .ok n :=
    Text.readInt64_toString (by rw [Text.maxInt64]; omega) (by rw [Text.maxInt64]; omega)
  exact ⟨n, toOption_eq_some_iff.mpr hread, rfl⟩

theorem exists_read?_boolean {type : FieldType} (h : type = .boolean) (b : Bool) :
    ∃ v, type.read? (Text.boolText b) = some v ∧ type.datum v = .boolean b := by
  subst h
  exact ⟨b, Text.readBool_boolText b, rfl⟩

theorem read?_integer_of_beyond {n : Int} (h : ¬(-(2 ^ 63) ≤ n ∧ n < 2 ^ 63)) :
    integer.read? (toString n) = none := by
  have hread := Text.readInt64_toString_of_beyond (n := n) (by rw [Text.maxInt64]; omega)
  rw [read?, hread]
  rfl

theorem read?_integer_boolText (b : Bool) : integer.read? (Text.boolText b) = none := by
  rw [read?, Text.readInt64_boolText]
  rfl

theorem read?_boolean_toString (n : Int) : boolean.read? (toString n) = none :=
  Text.readBool_toString n

end FieldType

namespace Target

/-- Brings a scalar to a setter that writes to the field. -/
def dispatch (t : Target) (key : String) (weight : Int) (s : Scalar) : RecordM Unit :=
  TemplateNode.dispatch key (.leaf ⟨weight, [.direct t]⟩) (.scalar s)

/-- Every record takes the scalar as `d`, which comes behind the values that the field had. -/
def Stores (t : Target) (s : Scalar) (d : Datum) : Prop :=
  ∃ v : t.address.Carrier, t.address.field.type.datum v = d ∧
    ∀ key weight r, (t.dispatch key weight s).runOn r = (.ok (), r.write t.address v) ∧
      (r.collections.CursorsOnLast →
        (r.write t.address v).values t.address = r.values t.address ++ [v])

/-- Every record stays as it is, with an error that has the path, the text and the type. -/
def Refuses (t : Target) (s : Scalar) (text : String) : Prop :=
  ∀ key weight r, (t.dispatch key weight s).runOn r =
    (.error (.conversion t.path text t.address.field.type), r)

theorem runOn_dispatch (t : Target) (key : String) (weight : Int) (s : Scalar) (r : Record) :
    (t.dispatch key weight s).runOn r =
      match t.write? s.text with
      | some w => (.ok (), r.put w)
      | none => (.error (.conversion t.path s.text t.address.field.type), r) := by
  rw [dispatch, TemplateNode.dispatch, Setter.apply_singleton, Action.run]
  exact runOn_store t s.text r

theorem stores_of_exists_read? {t : Target} {s : Scalar} {d : Datum}
    (h : ∃ v, t.address.field.type.read? s.text = some v ∧ t.address.field.type.datum v = d) :
    t.Stores s d := by
  obtain ⟨v, hread, hd⟩ := h
  refine ⟨v, hd, ?_⟩
  intro key weight r
  constructor
  · rw [runOn_dispatch, write?, hread]
    rfl
  · intro hr
    have hvalues := hr.values_write ⟨t.address, v⟩ t.address
    rwa [Write.valueAt_self] at hvalues

theorem refuses_of_read? {t : Target} {s : Scalar} (h : t.address.field.type.read? s.text = none) :
    t.Refuses s s.text := by
  intro key weight r
  rw [runOn_dispatch, write?, h]
  rfl

end Target

namespace Document

theorem ofValue_wrap (tag : Option Yaml.Tag) (value : Yaml.Value) :
    ofValue (.wrap tag value) = ofValue value := by
  rw [Yaml.Value.wrap]
  split
  · rw [ofValue]
  · rfl

section
variable {text : String} {value : Yaml.Value} {n : Int}

theorem integer?_of_ofPlain (h : Yaml.Value.ofPlain text = .ok value)
    (hn : ofValue value = .ok (.scalar (.integer n))) :
    Yaml.Plain.integer? text.toList = some n := by
  apply Yaml.Plain.integer?_of_ofText
  unfold Yaml.Value.ofPlain at h
  split at h
  case h_3 m hm =>
    obtain rfl := Except.ok.inj h
    obtain rfl : m = n := by simpa [ofValue] using hn
    exact hm
  case h_4 => cases h
  all_goals
    obtain rfl := Except.ok.inj h
    simp [ofValue] at hn

theorem integer?_of_ofUntypedScalar {style : Yaml.ScalarStyle}
    (h : Yaml.Value.ofUntypedScalar style text = .ok value)
    (hn : ofValue value = .ok (.scalar (.integer n))) :
    Yaml.Plain.integer? text.toList = some n := by
  unfold Yaml.Value.ofUntypedScalar at h
  split at h
  · exact integer?_of_ofPlain h hn
  · obtain rfl := Except.ok.inj h
    simp [ofValue] at hn

theorem integer?_of_ofTypedScalar {tag : Yaml.Tag}
    (h : Yaml.Value.ofTypedScalar tag text = .ok value)
    (hn : ofValue value = .ok (.scalar (.integer n))) :
    Yaml.Plain.integer? text.toList = some n := by
  unfold Yaml.Value.ofTypedScalar at h
  dsimp only at h
  split at h
  · split at h
    · obtain rfl := Except.ok.inj h
      simp [ofValue] at hn
    · cases h
  · split at h
    · split at h
      · next m hm =>
        obtain rfl := Except.ok.inj h
        obtain rfl : m = n := by simpa [ofValue] using hn
        exact hm
      · cases h
    · split at h
      · split at h
        · obtain rfl := Except.ok.inj h
          simp [ofValue] at hn
        · cases h
      · split at h
        · split at h
          · obtain rfl := Except.ok.inj h
            simp [ofValue] at hn
          · cases h
        · obtain rfl := Except.ok.inj h
          simp [ofValue] at hn

/-- No scalar is decoded to an integer that its text does not stand for. -/
theorem integer?_of_ofScalar {tag : Option Yaml.Tag} {style : Yaml.ScalarStyle}
    (h : Yaml.Value.ofScalar tag style text = .ok value)
    (hn : ofValue value = .ok (.scalar (.integer n))) :
    Yaml.Plain.integer? text.toList = some n := by
  unfold Yaml.Value.ofScalar at h
  split at h
  · exact integer?_of_ofUntypedScalar h hn
  · split at h
    · obtain ⟨inner, hinner, rfl⟩ := map_eq_ok_iff.mp h
      rw [ofValue_wrap] at hn
      exact integer?_of_ofUntypedScalar hinner hn
    · exact integer?_of_ofTypedScalar h hn

end
end Document

/-- An integer field takes the integers of 64 bits and refuses the others, and a boolean field takes
booleans; neither takes a scalar of the other type. An unquoted scalar in digits decodes to the
integer it spells, from the least signed one of 64 bits to the greatest unsigned one, and no scalar
decodes to an integer beyond these. -/
theorem Scalar.integers_and_booleans_exact :
    (∀ path t, Target.resolve path = .ok t → t.path = path ∧
      (t.address.field.type = .integer →
        (∀ n : Int, -(2 ^ 63) ≤ n → n < 2 ^ 63 → t.Stores (.integer n) (.integer n)) ∧
          (∀ n : Int, ¬(-(2 ^ 63) ≤ n ∧ n < 2 ^ 63) → t.Refuses (.integer n) (toString n)) ∧
            ∀ b, t.Refuses (.boolean b) (Text.boolText b)) ∧
      (t.address.field.type = .boolean →
        (∀ b, t.Stores (.boolean b) (.boolean b)) ∧
          ∀ n : Int, t.Refuses (.integer n) (toString n))) ∧
    (∀ n : Int, -(2 ^ 63) ≤ n → n < 2 ^ 64 → ∀ (d : Yaml.Document) (depth followed : Nat)
      (anchor : Option Nat),
        (d.read depth (.scalar anchor none .plain (toString n))).run followed =
            .ok (.integer n, followed) ∧
          Document.ofValue (.integer n) = .ok (.scalar (.integer n))) ∧
    ∀ tag style text value (n : Int), Yaml.Value.ofScalar tag style text = .ok value →
      Document.ofValue value = .ok (.scalar (.integer n)) → -(2 ^ 63) ≤ n ∧ n < 2 ^ 64 := by
  refine ⟨?_, ?_, ?_⟩
  · intro path t ht
    refine ⟨Target.path_of_resolve ht, ?_, ?_⟩
    · intro htype
      refine ⟨?_, ?_, ?_⟩
      · intro n hlow hhigh
        exact Target.stores_of_exists_read? (FieldType.exists_read?_integer htype hlow hhigh)
      · intro n hn
        exact Target.refuses_of_read? (htype ▸ FieldType.read?_integer_of_beyond hn)
      · intro b
        exact Target.refuses_of_read? (htype ▸ FieldType.read?_integer_boolText b)
    · intro htype
      refine ⟨?_, ?_⟩
      · intro b
        exact Target.stores_of_exists_read? (FieldType.exists_read?_boolean htype b)
      · intro n
        exact Target.refuses_of_read? (htype ▸ FieldType.read?_boolean_toString n)
  · intro n hlow hhigh d depth followed anchor
    exact ⟨d.run_read_toString hlow hhigh depth followed anchor, rfl⟩
  · intro tag style text value n h hn
    exact Yaml.Plain.bounds_of_integer? (Document.integer?_of_ofScalar h hn)

/-- The integers at the ends of the ranges, with a port and a flag to take them. -/
theorem Scalar.integers_and_booleans_exact_ends :
    let port : Target := ⟨"all.kafka.port", .beside (.beside (.scalar (.there (.there .here))))⟩
    let flag : Target := ⟨"all.postgresql.database.for_migrations",
      .beside (.beside (.beside (.beside (.inside (.scalar (.there .here))))))⟩
    Target.resolve port.path = .ok port ∧ Target.resolve flag.path = .ok flag ∧
      port.Stores (.integer (2 ^ 63 - 1)) (.integer (2 ^ 63 - 1)) ∧
      port.Stores (.integer (-(2 ^ 63))) (.integer (-(2 ^ 63))) ∧
      port.Refuses (.integer (2 ^ 63)) (toString (2 ^ 63 : Int)) ∧
      port.Refuses (.boolean true) "true" ∧ flag.Stores (.boolean true) (.boolean true) ∧
      flag.Refuses (.integer 1) (toString (1 : Int)) ∧
      (∀ (d : Yaml.Document) (depth followed : Nat),
        (d.read depth (.scalar none none .plain (toString (2 ^ 64 - 1 : Int)))).run followed =
            .ok (.integer (2 ^ 64 - 1), followed) ∧
          Document.ofValue (.integer (2 ^ 64 - 1)) = .ok (.scalar (.integer (2 ^ 64 - 1)))) ∧
      Yaml.Value.ofScalar none .plain "0xff" = .ok (.integer 255) ∧
        -(2 ^ 63) ≤ (255 : Int) ∧ (255 : Int) < 2 ^ 64 := by
  intro port flag
  obtain ⟨hfields, hdecoded, hbounds⟩ := integers_and_booleans_exact
  have hport : Target.resolve port.path = .ok port := by decide +kernel
  have hflag : Target.resolve flag.path = .ok flag := by decide +kernel
  have hhex : Yaml.Value.ofScalar none .plain "0xff" = .ok (.integer 255) := rfl
  obtain ⟨-, hinteger, -⟩ := hfields _ _ hport
  obtain ⟨-, -, hboolean⟩ := hfields _ _ hflag
  obtain ⟨hstores, hbeyond, hrefused⟩ := hinteger (by decide)
  obtain ⟨hset, hunset⟩ := hboolean (by decide)
  refine ⟨hport, hflag, hstores _ (by decide) (by decide), hstores _ (by decide) (by decide),
    hbeyond _ (by decide), hrefused true, hset true, hunset 1, ?_, hhex, hbounds _ _ _ _ _ hhex rfl⟩
  intro d depth followed
  exact hdecoded _ (by decide) (by decide) d depth followed none

end ServiceAtlas
