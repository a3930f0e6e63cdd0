import ServiceAtlas.Proofs.Record.Contents

/-!
# Growth of contents

Contents grow at their ends alone. An instance with another one behind it is closed and stays as it
is; the last one may get values for fields that have none, and its nested collections grow in turn.
Writing is growth, and so is any number of writes.
-/
namespace ServiceAtlas

namespace Last

variable {α : Type} {R : α → α → Prop} {is js ks : List α}

/-- The instances before the last are still there, the last one is related to what it was, and new
ones may stand behind it. -/
def Grown (R : α → α → Prop) (is js : List α) : Prop :=
  ∀ closed i, is = closed ++ [i] → ∃ j new, js = closed ++ j :: new ∧ R i j

theorem Grown.refl (h : ∀ i, R i i) (is : List α) : Grown R is is :=
  fun _ i his => ⟨i, [], his, h i⟩

theorem Grown.trans (h : ∀ i j k, R i j → R j k → R i k) (hij : Grown R is js)
    (hjk : Grown R js ks) : Grown R is ks := by
  intro closed i his
  obtain ⟨j, new, hjs, hi⟩ := hij closed i his
  rcases new.eq_nil_or_concat' with rfl | ⟨new, l, rfl⟩
  · obtain ⟨k, behind, hks, hj⟩ := hjk closed j hjs
    exact ⟨k, behind, hks, h i j k hi hj⟩
  · -- The changed instance `j` is closed by now, so the next change leaves it alone.
    obtain ⟨k, behind, hks, -⟩ := hjk (closed ++ j :: new) l (by simpa using hjs)
    exact ⟨j, new ++ k :: behind, by simpa using hks, hi⟩

theorem Grown.length_le (h : Grown R is js) : is.length ≤ js.length := by
  rcases is.eq_nil_or_concat' with rfl | ⟨closed, i, rfl⟩
  · exact Nat.zero_le _
  · obtain ⟨j, new, rfl, -⟩ := h closed i rfl
    simp

/-- Each instance is still in its place, and is related to what it was. -/
theorem Grown.exists_getElem? (hrefl : ∀ i, R i i) (h : Grown R is js) {n : Nat} {i : α}
    (hi : is[n]? = some i) : ∃ j, js[n]? = some j ∧ R i j := by
  rcases is.eq_nil_or_concat' with rfl | ⟨closed, last, rfl⟩
  · simp at hi
  · obtain ⟨j, new, rfl, hj⟩ := h closed last rfl
    rcases Nat.lt_or_ge n closed.length with hn | hn
    · rw [List.getElem?_append_left hn] at hi ⊢
      exact ⟨i, hi, hrefl i⟩
    · rw [List.getElem?_append_right hn] at hi ⊢
      obtain ⟨hz, rfl⟩ : n - closed.length = 0 ∧ last = i := by
        cases hm : n - closed.length <;> simp_all
      exact ⟨j, by simp [hz], hj⟩

theorem grown_assign (hrefl : ∀ i, R i i) {fresh : α} {isTaken : α → Bool} {f : α → α}
    (hf : ∀ i, isTaken i = false → R i (f i)) (is : List α) :
    Grown R is (assign fresh isTaken f is) := by
  rintro closed i rfl
  rw [assign_concat]
  cases ht : isTaken i with
  | true => exact ⟨i, [f fresh], by simp, hrefl i⟩
  | false => exact ⟨f i, [], by simp, hf i ht⟩

theorem grown_modify (hrefl : ∀ i, R i i) {fresh : α} {f : α → α} (hf : ∀ i, R i (f i))
    (is : List α) : Grown R is (modify fresh f is) := by
  rw [← assign_of_not_taken]
  exact grown_assign hrefl (fun i _ => hf i) is

end Last

/-- Every value of a row is in the other one too. -/
def Row.KeptIn {fields : List Field} (row other : Row fields) : Prop :=
  ∀ slot v, row.get slot = some v → other.get slot = some v

theorem Row.keptIn_set {fields : List Field} {slot : Slot fields} {row : Row fields}
    (h : row.get slot = none) (v : slot.field.type.Carrier) : row.KeptIn (row.set slot v) := by
  intro other w hw
  have hne : other ≠ slot := by
    rintro rfl
    simp [h] at hw
  rw [get_set_of_ne hne, hw]

/-- An instance has kept its values, and what is nested in it is related to what it was. -/
def Instance.Grown {fields : List Field} {N : Type} (R : N → N → Prop) (i j : Instance fields N) :
    Prop :=
  i.values.KeptIn j.values ∧ R i.nested j.nested

namespace Contents

/-- In each list the closed instances are as they were, and the last one has kept its values while
the lists nested in it have grown. -/
def Grown : {s : Schema} → Contents s → Contents s → Prop
  | .nil, _, _ => True
  | .cons .., (is, rest), (js, rest') =>
    Last.Grown (Instance.Grown fun c d => c.Grown d) is js ∧ rest.Grown rest'

theorem Grown.refl {s : Schema} (c : Contents s) : c.Grown c := by
  induction s with
  | nil => trivial
  | cons key keyword fields nested rest ihn ihr =>
    exact ⟨Last.Grown.refl (fun i => ⟨fun _ _ h => h, ihn i.nested⟩) c.1, ihr c.2⟩

theorem Grown.trans {s : Schema} {c d e : Contents s} (hcd : c.Grown d) (hde : d.Grown e) :
    c.Grown e := by
  induction s with
  | nil => trivial
  | cons key keyword fields nested rest ihn ihr =>
    refine ⟨Last.Grown.trans ?_ hcd.1 hde.1, ihr hcd.2 hde.2⟩
    rintro i j k ⟨hij, hnij⟩ ⟨hjk, hnjk⟩
    exact ⟨fun slot v h => hjk slot v (hij slot v h), ihn hnij hnjk⟩

section
variable {fields : List Field} {nested : Schema}

theorem instanceGrown_refl (i : Instance fields (Contents nested)) : i.Grown Grown i :=
  ⟨fun _ _ h => h, Grown.refl i.nested⟩

theorem instanceGrown_setValue {slot : Slot fields} {i : Instance fields (Contents nested)}
    (h : isSet slot i = false) (v : slot.field.type.Carrier) :
    i.Grown Grown (setValue slot v i) :=
  ⟨Row.keptIn_set (by simpa [isSet] using h) v, Grown.refl i.nested⟩

theorem instanceGrown_changeNested {f : Contents nested → Contents nested}
    (h : ∀ c, Grown c (f c)) (i : Instance fields (Contents nested)) :
    i.Grown Grown (changeNested f i) :=
  ⟨fun _ _ h => h, h i.nested⟩

end

/-- A write is growth: it sets no field that is set. -/
theorem grown_write {s : Schema} {a : Address s} (v : a.Carrier) (c : Contents s) :
    c.Grown (c.write a v) := by
  induction a with
  | scalar slot =>
    refine ⟨?_, Grown.refl c.2⟩
    exact Last.grown_assign instanceGrown_refl (fun i hi => instanceGrown_setValue hi v) c.1
  | inside a ih =>
    refine ⟨?_, Grown.refl c.2⟩
    exact Last.grown_modify instanceGrown_refl (instanceGrown_changeNested (ih v)) c.1
  | beside a ih => exact ⟨Last.Grown.refl instanceGrown_refl c.1, ih v c.2⟩

end Contents

namespace Collections

/-- Where the contents of collections have grown, each collection is still there at every depth, and
it is no shorter. -/
theorem exists_extent_of_grown {s : Schema} {c d : Collections s}
    (h : c.contents.Grown d.contents) (outer : String) :
    ∀ e ∈ c.extents outer, ∃ e' ∈ d.extents outer, e'.place = e.place ∧ e.size ≤ e'.size := by
  induction s generalizing outer with
  | nil =>
    intro e he
    exact absurd he List.not_mem_nil
  | cons key keyword fields nested rest ihn ihr =>
    obtain ⟨c, cs⟩ := c
    obtain ⟨d, ds⟩ := d
    obtain ⟨hl, hr⟩ := h
    intro e he
    rw [extents, List.cons_append, List.mem_cons, List.mem_append] at he
    rw [extents]
    rcases he with rfl | he | he
    · have hsize : c.size ≤ d.size := by simpa [Collection.size] using hl.length_le
      exact ⟨_, List.mem_cons_self, rfl, hsize⟩
    · obtain ⟨⟨i, n⟩, hi, he⟩ := List.mem_flatMap.mp he
      -- The instance around the collection is in the same place later on.
      have hin : (c.instances.map view)[n]? = some (view i) := by
        rw [List.getElem?_map, List.mem_zipIdx_iff_getElem?.mp hi]
        rfl
      obtain ⟨k, hk, -, hnested⟩ := hl.exists_getElem? Contents.instanceGrown_refl hin
      rw [List.getElem?_map] at hk
      obtain ⟨j, hj, rfl⟩ := Option.map_eq_some_iff.mp hk
      obtain ⟨e', he', hplace⟩ := ihn hnested _ e he
      have hjn : (j, n) ∈ d.instances.zipIdx := List.mem_zipIdx_iff_getElem?.mpr hj
      refine ⟨e', ?_, hplace⟩
      exact List.mem_cons_of_mem _ (List.mem_append_left _ (List.mem_flatMap.mpr ⟨_, hjn, he'⟩))
    · obtain ⟨e', he', hplace⟩ := ihr hr outer e he
      exact ⟨e', List.mem_cons_of_mem _ (List.mem_append_right _ he'), hplace⟩

end Collections
end ServiceAtlas
