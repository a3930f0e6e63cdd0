import Mathlib.Data.List.Forall2
import ServiceAtlas.Proofs.Extract.Operations
import ServiceAtlas.Proofs.Record.Alignment

/-!
# Items of an array

The items of an array are walked one after the other, and nothing but a repeated field tells where
the instances of one end and those of the next begin. Where each item, walked alone, begins with the
same field of a collection, stays inside the collection and makes one instance of it, the whole array
makes these instances: no item leaves anything in the instance of another.
-/
namespace ServiceAtlas

namespace Visit

def event? : Visit → Option Event
  | event e => some e
  | misfit _ => none

theorem changes_script (v : Visit) :
    v.script.changes = v.event?.elim [] fun e => (e.setter.script e.text).changes := by
  cases v <;> rfl

theorem result_script_eq_ok_iff (v : Visit) :
    v.script.result = .ok () ↔ ∃ e, v.event? = some e ∧ (e.setter.script e.text).result = .ok () := by
  cases v with
  | event e => simp [event?, script]
  | misfit m => simp [event?, script, Script.fail]

/-- Visits that succeed do so with the same changes wherever the same events are visited. -/
theorem all_script_of_map_event?_eq {vs ws : List Visit} (h : vs.map event? = ws.map event?)
    (hok : (Script.all (vs.map script)).result = .ok ()) :
    (Script.all (ws.map script)).result = .ok () ∧
      (Script.all (ws.map script)).changes = (Script.all (vs.map script)).changes := by
  have hvs := Script.result_all_eq_ok_iff.mp hok
  have hws : ∀ s ∈ ws.map script, s.result = .ok () := by
    rw [List.forall_mem_map] at hvs ⊢
    intro w hw
    obtain ⟨v, hv, hvw⟩ := List.mem_map.mp (h ▸ List.mem_map_of_mem hw : w.event? ∈ vs.map event?)
    rw [result_script_eq_ok_iff, ← hvw, ← result_script_eq_ok_iff]
    exact hvs v hv
  refine ⟨Script.result_all_eq_ok_iff.mpr hws, ?_⟩
  have hflat (us : List Visit) : us.flatMap (fun u => u.script.changes) =
      (us.map event?).flatMap fun o => o.elim [] fun e => (e.setter.script e.text).changes := by
    rw [List.flatMap_map]
    exact List.flatMap_congr fun u _ => u.changes_script
  rw [Script.changes_all hws, Script.changes_all hvs, List.flatMap_map, List.flatMap_map,
    hflat vs, hflat ws, h]

end Visit

namespace TemplateNode

-- The induction is on the document, together with its items.
mutual

/-- The key of a value stands in the errors of a walk, and has no part in its events. -/
theorem map_event?_visits (key other : String) (node : TemplateNode) :
    (value : Document) →
      (visits key node value).map Visit.event? = (visits other node value).map Visit.event?
  | .map entries => by cases node <;> simp [visits, Visit.event?]
  | .array items => by
    have hitems (element : TemplateNode) := map_event?_visitsOfItems key other element 0 0 items
    rw [visits_array, visits_array]
    cases node.arrayElement? with
    | none => rfl
    | some element =>
      cases element with
      | none => rfl
      | some element => exact hitems element
  | .scalar scalar => by cases node <;> simp [visits, Visit.event?]
  | .null => by simp [visits, Visit.event?]

theorem map_event?_visitsOfItems (key other : String) (element : TemplateNode) (m n : Nat) :
    (items : List Document) → (visitsOfItems key element m items).map Visit.event? =
      (visitsOfItems other element n items).map Visit.event?
  | [] => by simp [visitsOfItems]
  | item :: items => by
    rw [visitsOfItems, visitsOfItems, List.map_append, List.map_append,
      map_event?_visits _ s!"{other}[{n}]" element item,
      map_event?_visitsOfItems key other element (m + 1) (n + 1) items]

end

/-- What a walk does to a record at the items of an array. -/
def scriptOfItems (key : String) (element : TemplateNode) (items : List Document) : Script :=
  .all ((visitsOfItems key element 0 items).map Visit.script)

theorem performs_walkItems (key : String) (element : TemplateNode) (items : List Document) :
    (walkItems key element 0 items).Performs (scriptOfItems key element items) := by
  rw [walkItems_eq_runAll]
  exact .forM Visit.performs_run _

theorem map_event?_visitsOfItems_eq (key : String) (element : TemplateNode) (index : Nat)
    (items : List Document) : (visitsOfItems key element index items).map Visit.event? =
      (items.flatMap fun item => visitsOfItems key element 0 [item]).map Visit.event? := by
  induction items generalizing index with
  | nil => simp [visitsOfItems]
  | cons item items ih =>
    have hone := map_event?_visitsOfItems key key element index 0 [item]
    have hcons : visitsOfItems key element index (item :: items) =
        visitsOfItems key element index [item] ++ visitsOfItems key element (index + 1) items := by
      simp [visitsOfItems]
    rw [hcons, List.flatMap_cons, List.map_append, List.map_append, hone, ih (index + 1)]

/-- Items that succeed alone succeed one behind the other, and make the same changes. -/
theorem scriptOfItems_of_each {key : String} {element : TemplateNode} {items : List Document}
    (h : ∀ item ∈ items, (scriptOfItems key element [item]).result = .ok ()) :
    (scriptOfItems key element items).result = .ok () ∧
      (scriptOfItems key element items).changes =
        items.flatMap fun item => (scriptOfItems key element [item]).changes := by
  have hvisits : ∀ item ∈ items, ∀ s ∈ (visitsOfItems key element 0 [item]).map Visit.script,
      s.result = .ok () :=
    fun item hitem => Script.result_all_eq_ok_iff.mp (h item hitem)
  have hall : ∀ s ∈ (items.flatMap fun item => visitsOfItems key element 0 [item]).map Visit.script,
      s.result = .ok () := by
    intro s hs
    obtain ⟨v, hv, rfl⟩ := List.mem_map.mp hs
    obtain ⟨item, hitem, hv⟩ := List.mem_flatMap.mp hv
    exact hvisits item hitem _ (List.mem_map_of_mem hv)
  have hevents := map_event?_visitsOfItems_eq key element 0 items
  obtain ⟨hresult, hchanges⟩ := Visit.all_script_of_map_event?_eq hevents.symm
    (Script.result_all_eq_ok_iff.mpr hall)
  refine ⟨hresult, hchanges.trans ?_⟩
  rw [Script.changes_all hall, List.flatMap_map, List.flatMap_assoc]
  refine List.flatMap_congr fun item hitem => ?_
  rw [scriptOfItems, Script.changes_all (hvisits item hitem), List.flatMap_map]

theorem writes_scriptOfItems_of_each {key : String} {element : TemplateNode}
    {items : List Document}
    (h : ∀ item ∈ items, (scriptOfItems key element [item]).result = .ok ()) :
    (scriptOfItems key element items).writes =
      (items.map fun item => (scriptOfItems key element [item]).writes).flatten := by
  rw [Script.writes, (scriptOfItems_of_each h).2, List.filterMap_flatMap, List.flatMap_def]
  rfl

end TemplateNode

open TemplateNode

/-- The changes of a new record fill it with the instances of their groups. -/
theorem Record.contents_applyAll_empty (cs : List Change) :
    (empty.applyAll cs).collections.contents =
      Grouping.contents Schema.record (cs.filterMap Change.write?) := by
  induction cs using List.reverseRecOn with
  | nil => exact Collections.contents_empty.trans Grouping.contents_nil.symm
  | append_singleton cs c ih =>
    have hc := cursorsOnLast_applyAll (r := empty) Collections.cursorsOnLast_empty cs
    rw [applyAll_append, List.filterMap_append]
    cases c with
    | put w =>
      change ((empty.applyAll cs).put w).collections.contents =
        Grouping.contents Schema.record (cs.filterMap Change.write? ++ [w])
      rw [Grouping.contents_concat, ← ih]
      exact Collections.contents_write w.value hc
    | warn message =>
      have hnone : [Change.warn message].filterMap Change.write? = [] := rfl
      rw [hnone, List.append_nil]
      exact ih
    | release =>
      have hnone : [Change.release].filterMap Change.write? = [] := rfl
      rw [hnone, List.append_nil, ← ih]
      exact Collections.contents_release _

/-- An item, walked alone into a new record, succeeds. It writes to the collection of a field only or
inside it, beginning with that field, and makes one instance of it. -/
structure TemplateNode.Fills (key : String) (element : TemplateNode) (a : Address Schema.record)
    (item : Document) (i : a.place.Item) : Prop where
  succeeds : ((walkItems key element 0 [item]).runOn .empty).1 = .ok ()
  first : ∃ v, (scriptOfItems key element [item]).writes.head? = some ⟨a, v⟩
  within : ∀ w ∈ (scriptOfItems key element [item]).writes, w.address.place.Within a.place
  one : ((walkItems key element 0 [item]).runOn .empty).2.collections.contents.instancesAt a.place =
    [i]

namespace TemplateNode

variable {key : String} {element : TemplateNode} {a : Address Schema.record}

theorem contents_walkItems (key : String) (element : TemplateNode) (items : List Document) :
    ((walkItems key element 0 items).runOn .empty).2.collections.contents =
      Grouping.contents Schema.record (scriptOfItems key element items).writes := by
  rw [performs_walkItems key element items]
  exact Record.contents_applyAll_empty _

namespace Fills

variable {item : Document} {i : a.place.Item}

theorem result_eq_ok (h : Fills key element a item i) :
    (scriptOfItems key element [item]).result = .ok () := by
  have hok := h.succeeds
  rw [performs_walkItems key element [item]] at hok
  exact hok

theorem isBlock (h : Fills key element a item i) :
    Grouping.IsBlock a (scriptOfItems key element [item]).writes := by
  obtain ⟨v, hv⟩ := h.first
  obtain ⟨tail, htail⟩ := List.head?_eq_some_iff.mp hv
  refine ⟨⟨v, tail, htail⟩, h.within, ?_⟩
  rw [← contents_walkItems, h.one, List.length_singleton]

end Fills

theorem forall₂_fills {items : List Document}
    (h : ∀ item ∈ items, ∃ i, Fills key element a item i) :
    List.Forall₂ (Fills key element a) items (items.flatMap fun item =>
      (Grouping.contents _ (scriptOfItems key element [item]).writes).instancesAt a.place) := by
  induction items with
  | nil => exact .nil
  | cons item items ih =>
    obtain ⟨⟨i, hi⟩, hrest⟩ := List.forall_mem_cons.mp h
    rw [List.flatMap_cons, ← contents_walkItems, hi.one]
    exact .cons hi (ih hrest)

/-- Items that each make one instance of a collection, beginning with the same of its fields, make
just these instances in the order of the array, one for each item. All of them are in the same
instance of every collection around theirs. What an item begins with and writes to is read off the
script that the walk of its array performs on any record. -/
theorem instancesAt_walkItems {items : List Document}
    (h : ∀ item ∈ items, ∃ i, Fills key element a item i) :
    let walk := (walkItems key element 0 items).runOn .empty
    walk.1 = .ok () ∧
      List.Forall₂ (Fills key element a) items (walk.2.collections.contents.instancesAt a.place) ∧
        (∀ q, a.place.Within q → q ≠ a.place →
          (walk.2.collections.contents.instancesAt q).length ≤ 1) ∧
        ∀ ds, (walkItems key element 0 ds).Performs (scriptOfItems key element ds) := by
  intro walk
  have hok : ∀ item ∈ items, (scriptOfItems key element [item]).result = .ok () := by
    intro item hitem
    obtain ⟨i, hi⟩ := h item hitem
    exact hi.result_eq_ok
  have hblocks : ∀ ws ∈ items.map fun item => (scriptOfItems key element [item]).writes,
      Grouping.IsBlock a ws := by
    rw [List.forall_mem_map]
    intro item hitem
    obtain ⟨i, hi⟩ := h item hitem
    exact hi.isBlock
  have hcontents : walk.2.collections.contents = _ := contents_walkItems key element items
  rw [writes_scriptOfItems_of_each hok] at hcontents
  refine ⟨?_, ?_, ?_, performs_walkItems key element⟩
  · change ((walkItems key element 0 items).runOn .empty).1 = .ok ()
    rw [performs_walkItems key element items]
    exact (scriptOfItems_of_each hok).1
  · rw [hcontents, Grouping.instancesAt_flatten hblocks, List.flatMap_map]
    exact forall₂_fills h
  · intro q hq hne
    rw [hcontents]
    refine Grouping.length_instancesAt_le_one ?_ hq hne
    intro w hw
    obtain ⟨ws, hws, hmem⟩ := List.mem_flatten.mp hw
    exact (hblocks ws hws).within w hmem

/-- Two databases with their schemes, the second of which has none. -/
theorem instancesAt_walkItems_databases :
    let name : Target := ⟨"all.postgresql.database.name",
      .beside (.beside (.beside (.beside (.inside (.scalar .here)))))⟩
    let scheme : Target := ⟨"all.postgresql.database.scheme.name",
      .beside (.beside (.beside (.beside (.inside (.inside (.scalar .here))))))⟩
    let element : TemplateNode := .map [("name", .leaf ⟨0, [.direct name]⟩),
      ("schemes", .array (some (.leaf ⟨0, [.direct scheme]⟩)))]
    let orders : Document := .map [("name", .scalar (.string "orders")),
      ("schemes", .array [.scalar (.string "public"), .scalar (.string "audit")])]
    let users : Document := .map [("name", .scalar (.string "users"))]
    let walk := (walkItems "databases" element 0 [orders, users]).runOn .empty
    (∀ item ∈ [orders, users], ∃ i, Fills "databases" element name.address item i) ∧
      walk.1 = .ok () ∧
        List.Forall₂ (Fills "databases" element name.address) [orders, users]
          (walk.2.collections.contents.instancesAt name.address.place) := by
  intro name scheme element orders users walk
  have horders : Fills "databases" element name.address orders
      ⟨(some "orders", (none, ())), ([⟨(some "public", ()), ()⟩, ⟨(some "audit", ()), ()⟩], ())⟩ :=
    ⟨rfl, ⟨"orders", rfl⟩, by decide +kernel, rfl⟩
  have husers : Fills "databases" element name.address users
      ⟨(some "users", (none, ())), ([], ())⟩ :=
    ⟨rfl, ⟨"users", rfl⟩, by decide +kernel, rfl⟩
  have hfills : ∀ item ∈ [orders, users], ∃ i, Fills "databases" element name.address item i :=
    List.forall_mem_cons.mpr ⟨⟨_, horders⟩, List.forall_mem_singleton.mpr ⟨_, husers⟩⟩
  obtain ⟨hok, hinstances, -⟩ := instancesAt_walkItems hfills
  exact ⟨hfills, hok, hinstances⟩

end TemplateNode
end ServiceAtlas
