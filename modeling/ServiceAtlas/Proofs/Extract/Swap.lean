import ServiceAtlas.Proofs.Extract.Targets
import ServiceAtlas.Proofs.Record.Places

/-!
# Independent entries

The writes of a walk go to the fields that the setters of the template name. Where two entries of a
document meet nodes whose setters write to independent places, the changes that the one makes can
be moved past those of the other, so that it does not matter which of the two comes first. Only the
order of the warnings tells.
-/
namespace ServiceAtlas

namespace Change

/-- Two changes are writes to independent places, or one of them is a warning. Releases are left
out: a write sets the cursors that they drop. -/
def Independent : Change → Change → Prop
  | put w, put x => w.address.place.Independent x.address.place
  | put _, warn _ => True
  | warn _, put _ => True
  | warn _, warn _ => True
  | release, _ => False
  | put _, release => False
  | warn _, release => False

theorem IsFor.independent {ts us : List Target}
    (h : ∀ t ∈ ts, ∀ u ∈ us, t.address.place.Independent u.address.place) {c d : Change}
    (hc : c.IsFor ts) (hd : d.IsFor us) : c.Independent d := by
  cases c with
  | release => exact hc
  | warn message =>
    cases d with
    | release => exact hd
    | warn other => trivial
    | put x => trivial
  | put w =>
    cases d with
    | release => exact hd
    | warn message => trivial
    | put x =>
      obtain ⟨t, ht, hw⟩ := hc
      obtain ⟨u, hu, hx⟩ := hd
      change w.address.place.Independent x.address.place
      rw [← hw, ← hx]
      exact h t ht u hu

end Change

namespace Record

theorem put_comm {w x : Write Schema.record}
    (h : w.address.place.Independent x.address.place) (r : Record) :
    (r.put w).put x = (r.put x).put w := by
  have hc := Collections.write_comm h w.value x.value r.collections
  simp only [put, write, hc]

/-- Two records have the same collections, cursors included, and the same warnings up to order. -/
structure Alike (r s : Record) : Prop where
  collections : r.collections = s.collections
  warnings : r.warnings.Perm s.warnings

theorem Alike.refl (r : Record) : r.Alike r := ⟨rfl, .rfl⟩

theorem Alike.trans {r s u : Record} (hrs : r.Alike s) (hsu : s.Alike u) : r.Alike u :=
  ⟨hrs.collections.trans hsu.collections, hrs.warnings.trans hsu.warnings⟩

theorem Alike.apply {r s : Record} (h : r.Alike s) (c : Change) : (r.apply c).Alike (s.apply c) := by
  obtain ⟨hc, hw⟩ := h
  cases c with
  | put w => exact ⟨congrArg (Collections.write w.address w.value) hc, hw⟩
  | warn message => exact ⟨hc, hw.append_right [message]⟩
  | release => exact ⟨congrArg Collections.release hc, hw⟩

theorem Alike.applyAll {r s : Record} (h : r.Alike s) (cs : List Change) :
    (r.applyAll cs).Alike (s.applyAll cs) := by
  induction cs generalizing r s with
  | nil => exact h
  | cons c cs ih => exact ih (h.apply c)

/-- Two changes that are independent can be exchanged. -/
theorem alike_swap {c d : Change} (h : c.Independent d) (r : Record) :
    ((r.apply c).apply d).Alike ((r.apply d).apply c) := by
  cases c with
  | release => exact h.elim
  | warn message =>
    cases d with
    | release => exact h.elim
    | warn other =>
      refine ⟨rfl, ?_⟩
      change (r.warnings ++ [message] ++ [other]).Perm (r.warnings ++ [other] ++ [message])
      rw [List.append_assoc, List.append_assoc]
      exact (List.Perm.swap other message []).append_left r.warnings
    | put x => exact .refl _
  | put w =>
    cases d with
    | release => exact h.elim
    | warn message => exact .refl _
    | put x => exact ⟨congrArg Record.collections (put_comm h r), .rfl⟩

/-- A change can be moved behind changes that are independent of it. -/
theorem alike_move {c : Change} {ds : List Change} (h : ∀ d ∈ ds, c.Independent d) (r : Record) :
    ((r.apply c).applyAll ds).Alike ((r.applyAll ds).apply c) := by
  induction ds generalizing r with
  | nil => exact .refl _
  | cons d ds ih =>
    have hswap := alike_swap (h d List.mem_cons_self) r
    have hrest := ih (fun e he => h e (List.mem_cons_of_mem d he)) (r.apply d)
    exact (hswap.applyAll ds).trans hrest

/-- Blocks of changes that are independent of one another can be exchanged. -/
theorem alike_append_comm {cs ds : List Change} (h : ∀ c ∈ cs, ∀ d ∈ ds, c.Independent d)
    (r : Record) : (r.applyAll (cs ++ ds)).Alike (r.applyAll (ds ++ cs)) := by
  induction cs generalizing r with
  | nil =>
    rw [List.nil_append, List.append_nil]
    exact .refl _
  | cons c cs ih =>
    have hrest := ih (fun b hb => h b (List.mem_cons_of_mem c hb)) (r.apply c)
    have hmove := alike_move (h c List.mem_cons_self) r
    rw [List.cons_append, applyAll_cons]
    refine hrest.trans ?_
    rw [applyAll_append, applyAll_append]
    exact hmove.applyAll cs

end Record

/-- Texts stored in independent places are converted alike in either order, and leave the same
record. -/
theorem Target.store_comm {t u : Target} (h : t.address.place.Independent u.address.place)
    (x y : String) (r : Record) :
    ((u.store y).runOn ((t.store x).runOn r).2).1 = ((u.store y).runOn r).1 ∧
      ((t.store x).runOn ((u.store y).runOn r).2).1 = ((t.store x).runOn r).1 ∧
        ((u.store y).runOn ((t.store x).runOn r).2).2 =
          ((t.store x).runOn ((u.store y).runOn r).2).2 := by
  simp only [runOn_store]
  cases hx : t.write? x with
  | none => cases u.write? y <;> simp
  | some w =>
    cases hy : u.write? y with
    | none => simp
    | some z =>
      obtain ⟨v, -, rfl⟩ := Option.map_eq_some_iff.mp hx
      obtain ⟨v', -, rfl⟩ := Option.map_eq_some_iff.mp hy
      exact ⟨rfl, rfl, Record.put_comm h r⟩

namespace TemplateNode

/-- The setters of the one node and those of the other write to independent places. -/
def Independent (n m : TemplateNode) : Prop :=
  ∀ t ∈ n.targets, ∀ u ∈ m.targets, t.address.place.Independent u.address.place

/-- What a walk does at one entry. -/
def scriptOfEntry (children : List (String × TemplateNode)) (entry : String × Document) : Script :=
  .all ((visitsOfEntries children [entry]).map Visit.script)

theorem isFor_of_mem_scriptOfEntry {children : List (String × TemplateNode)} {key : String}
    {value : Document} {c : Change} (h : c ∈ (scriptOfEntry children (key, value)).changes) :
    ∃ node, match? children key = some node ∧ c.IsFor node.targets := by
  obtain ⟨s, hs, hc⟩ := Script.exists_mem_of_mem_changes_all h
  obtain ⟨v, hv, rfl⟩ := List.mem_map.mp hs
  rw [visitsOfEntries_cons, visitsOfEntries, List.append_nil] at hv
  cases hn : match? children key with
  | none =>
    rw [hn] at hv
    exact absurd hv List.not_mem_nil
  | some node =>
    rw [hn] at hv
    refine ⟨node, rfl, ?_⟩
    cases v with
    | misfit m => exact absurd hc List.not_mem_nil
    | event e =>
      have he := setter_mem_leaves key node value e hv
      exact (Setter.isFor_of_mem_script hc).mono fun t ht => List.mem_flatMap.mpr ⟨_, he, ht⟩

end TemplateNode

open TemplateNode

namespace Template

theorem script_map (t : Template) (entries : List (String × Document)) :
    t.script (.map entries) = .all (entries.map (scriptOfEntry t.root)) := by
  rw [script]
  induction entries with
  | nil =>
    rw [visitsOfEntries]
    rfl
  | cons entry entries ih =>
    obtain ⟨key, value⟩ := entry
    have hone : visitsOfEntries t.root ((key, value) :: entries) =
        visitsOfEntries t.root [(key, value)] ++ visitsOfEntries t.root entries := by
      simp [visitsOfEntries]
    rw [hone, List.map_append, Script.all_append, ih]
    rfl

theorem result_script_map_eq_ok_iff {t : Template} {entries : List (String × Document)} :
    (t.script (.map entries)).result = .ok () ↔
      ∀ entry ∈ entries, (scriptOfEntry t.root entry).result = .ok () := by
  rw [script_map, Script.result_all_eq_ok_iff, List.forall_mem_map]

theorem changes_script_map {t : Template} {entries : List (String × Document)}
    (h : (t.script (.map entries)).result = .ok ()) :
    (t.script (.map entries)).changes =
      entries.flatMap fun entry => (scriptOfEntry t.root entry).changes := by
  rw [script_map] at h ⊢
  rw [Script.changes_all (Script.result_all_eq_ok_iff.mp h), List.flatMap_map]

/-- Writes of texts to independent places have the same outcomes in either order, and leave the same
record, cursors included. Two entries that stand side by side in a document and meet nodes with
independent setters can be exchanged: the walk succeeds as before, and then fills the same
collections and adds the same warnings, up to order. -/
theorem independent_entries_commute :
    (∀ (t u : Target) (x y : String) (r : Record), t.address.place.Independent u.address.place →
      let first := (t.store x).runOn r
      let other := (u.store y).runOn r
      ((u.store y).runOn first.2).1 = other.1 ∧ ((t.store x).runOn other.2).1 = first.1 ∧
        ((u.store y).runOn first.2).2 = ((t.store x).runOn other.2).2) ∧
      ∀ (t : Template) (before after : List (String × Document)) (k l : String) (d e : Document)
        (r : Record),
        (∀ n m, match? t.root k = some n → match? t.root l = some m → n.Independent m) →
          let one := (t.extractInto (.map (before ++ (k, d) :: (l, e) :: after))).runOn r
          let two := (t.extractInto (.map (before ++ (l, e) :: (k, d) :: after))).runOn r
          (one.1 = .ok () ↔ two.1 = .ok ()) ∧
            (one.1 = .ok () → one.2.collections = two.2.collections ∧
              one.2.warnings.Perm two.2.warnings) := by
  constructor
  · intro t u x y r h
    exact Target.store_comm h x y r
  · intro t before after k l d e r h one two
    have hone := t.performs_extractInto (.map (before ++ (k, d) :: (l, e) :: after)) r
    have htwo := t.performs_extractInto (.map (before ++ (l, e) :: (k, d) :: after)) r
    have hok : (t.script (.map (before ++ (k, d) :: (l, e) :: after))).result = .ok () ↔
        (t.script (.map (before ++ (l, e) :: (k, d) :: after))).result = .ok () := by
      simp only [result_script_map_eq_ok_iff, List.forall_mem_append, List.forall_mem_cons,
        and_left_comm]
    simp only [one, two, hone, htwo]
    refine ⟨hok, ?_⟩
    intro hsucceeds
    rw [changes_script_map hsucceeds, changes_script_map (hok.mp hsucceeds)]
    simp only [List.flatMap_append, List.flatMap_cons, Record.applyAll_append]
    have hind : ∀ c ∈ (scriptOfEntry t.root (k, d)).changes,
        ∀ c' ∈ (scriptOfEntry t.root (l, e)).changes, c.Independent c' := by
      intro c hc c' hc'
      obtain ⟨n, hn, hcn⟩ := isFor_of_mem_scriptOfEntry hc
      obtain ⟨m, hm, hcm⟩ := isFor_of_mem_scriptOfEntry hc'
      exact hcn.independent (h n m hn hm) hcm
    have hswap := Record.alike_append_comm hind
      (r.applyAll (before.flatMap fun entry => (scriptOfEntry t.root entry).changes))
    rw [Record.applyAll_append, Record.applyAll_append] at hswap
    obtain ⟨hcollections, hwarnings⟩ := hswap.applyAll
      (after.flatMap fun entry => (scriptOfEntry t.root entry).changes)
    exact ⟨hcollections, hwarnings⟩

/-- A sentinel and a namespace inside the same redis, which neither of the two finds there. -/
theorem independent_entries_commute_redis :
    let host : Target := ⟨"all.redis.sentinel.host",
      .beside (.beside (.beside (.inside (.beside (.scalar .here)))))⟩
    let name : Target := ⟨"all.redis.database.namespace.name",
      .beside (.beside (.beside (.inside (.inside (.scalar .here)))))⟩
    let t : Template := ⟨[("*", .leaf ⟨0, [.direct name]⟩), ("host", .leaf ⟨0, [.direct host]⟩)]⟩
    let cache := ("host", Document.scalar (.string "cache"))
    let main := ("main", Document.scalar (.string "main"))
    let one := (t.extractInto (.map [cache, main])).runOn .empty
    let two := (t.extractInto (.map [main, cache])).runOn .empty
    (host.address.place.Independent name.address.place ∧
      ((name.store "main").runOn ((host.store "cache").runOn .empty).2).2 =
        ((host.store "cache").runOn ((name.store "main").runOn .empty).2).2) ∧
      (∀ n m, match? t.root "host" = some n → match? t.root "main" = some m → n.Independent m) ∧
        one.1 = .ok () ∧ two.1 = .ok () ∧ one.2.collections = two.2.collections ∧
          one.2.warnings.Perm two.2.warnings := by
  intro host name t cache main one two
  have hplaces : host.address.place.Independent name.address.place := by decide
  have hnodes : ∀ n m, match? t.root "host" = some n → match? t.root "main" = some m →
      n.Independent m := by
    intro n m hn hm
    obtain rfl := Option.some.inj hn
    obtain rfl := Option.some.inj hm
    exact List.forall_mem_singleton.mpr (List.forall_mem_singleton.mpr hplaces)
  have hok : one.1 = .ok () := rfl
  obtain ⟨-, -, hwrites⟩ :=
    independent_entries_commute.1 host name "cache" "main" .empty hplaces
  obtain ⟨hiff, hsame⟩ :=
    independent_entries_commute.2 t [] [] "host" "main" cache.2 main.2 .empty hnodes
  exact ⟨⟨hplaces, hwrites⟩, hnodes, hok, hiff.mp hok, hsame hok⟩

end Template
end ServiceAtlas
