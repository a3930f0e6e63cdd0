import Mathlib.Data.List.Forall2
import Mathlib.Data.List.Nodup
import ServiceAtlas.Files.Store
import ServiceAtlas.Proofs.Sources.Load

/-!
# Validation of sources

Each source is held against those before it, and the first at fault is reported. Sources without a
fault are found by their names, and they stay without a fault when their templates are seen from the
directory of the file that they were read from.
-/
namespace ServiceAtlas

open Files (FileSystem Path)

/-- A name with a character that is no white space. -/
def SourceEntry.IsNamed (entry : SourceEntry) : Prop :=
  ∃ c ∈ entry.name.toList, Text.isBlank c = false

theorem SourceEntry.isAllBlank_iff {entry : SourceEntry} :
    Text.isAllBlank entry.name.toList ↔ ¬ entry.IsNamed := by
  simp [Text.isAllBlank, IsNamed]

namespace Sources

/-- Entries with names that are not blank and all different, and with templates. -/
structure Valid (entries : List SourceEntry) : Prop where
  named : ∀ entry ∈ entries, entry.IsNamed
  distinct : (entries.map SourceEntry.name).Nodup
  templated : ∀ entry ∈ entries, entry.template.text ≠ ""

/-- What is at fault with an entry behind others. A blank name is noticed before a name that one of
the others has, and this before a missing template. -/
inductive Offends (earlier : List SourceEntry) (entry : SourceEntry) : Fault → Prop
  | blankName (hblank : ¬ entry.IsNamed) : Offends earlier entry .blankName
  | duplicateName (hnamed : entry.IsNamed) (htaken : entry.name ∈ earlier.map SourceEntry.name) :
      Offends earlier entry (.duplicateName entry.name)
  | noTemplate (hnamed : entry.IsNamed) (hfresh : entry.name ∉ earlier.map SourceEntry.name)
      (hempty : entry.template.text = "") : Offends earlier entry (.noTemplate entry.name)

section
variable {earlier entries : List SourceEntry} {entry : SourceEntry} {fault fault' : Fault}

theorem Offends.unique (h : Offends earlier entry fault) (h' : Offends earlier entry fault') :
    fault = fault' := by
  cases h with
  | blankName hblank =>
    cases h' with
    | blankName => rfl
    | duplicateName hnamed => exact absurd hnamed hblank
    | noTemplate hnamed => exact absurd hnamed hblank
  | duplicateName hnamed htaken =>
    cases h' with
    | blankName hblank => exact absurd hnamed hblank
    | duplicateName => rfl
    | noTemplate _ hfresh => exact absurd htaken hfresh
  | noTemplate hnamed hfresh =>
    cases h' with
    | blankName hblank => exact absurd hnamed hblank
    | duplicateName _ htaken => exact absurd htaken hfresh
    | noTemplate => rfl

theorem not_offends_iff :
    (∀ fault, ¬ Offends earlier entry fault) ↔ entry.IsNamed ∧
      entry.name ∉ earlier.map SourceEntry.name ∧ entry.template.text ≠ "" := by
  constructor
  · intro h
    have hnamed : entry.IsNamed := by_contra fun hblank => h _ (.blankName hblank)
    have hfresh : entry.name ∉ earlier.map SourceEntry.name :=
      fun htaken => h _ (.duplicateName hnamed htaken)
    exact ⟨hnamed, hfresh, fun hempty => h _ (.noTemplate hnamed hfresh hempty)⟩
  · rintro ⟨hnamed, hfresh, htemplate⟩ fault h
    cases h <;> contradiction

theorem valid_nil : Valid [] := ⟨nofun, List.nodup_nil, nofun⟩

/-- One more entry is valid behind others when it has no fault beside them. -/
theorem valid_concat :
    Valid (earlier ++ [entry]) ↔ Valid earlier ∧ ∀ fault, ¬ Offends earlier entry fault := by
  rw [not_offends_iff]
  constructor
  · rintro ⟨hnamed, hdistinct, htemplated⟩
    rw [List.map_append, List.nodup_append] at hdistinct
    obtain ⟨hearlier, -, hne⟩ := hdistinct
    rw [List.forall_mem_append, List.forall_mem_singleton] at hnamed htemplated
    refine ⟨⟨hnamed.1, hearlier, htemplated.1⟩, hnamed.2, fun htaken => ?_, htemplated.2⟩
    exact hne _ htaken _ (List.mem_singleton_self _) rfl
  · rintro ⟨⟨hnamed, hdistinct, htemplated⟩, hname, hfresh, htemplate⟩
    refine ⟨?_, ?_, ?_⟩
    · exact List.forall_mem_append.mpr ⟨hnamed, List.forall_mem_singleton.mpr hname⟩
    · rw [List.map_append, List.nodup_append]
      refine ⟨hdistinct, List.nodup_singleton _, fun name htaken other hother => ?_⟩
      obtain rfl := List.mem_singleton.mp hother
      exact fun heq => hfresh (heq ▸ htaken)
    · exact List.forall_mem_append.mpr ⟨htemplated, List.forall_mem_singleton.mpr htemplate⟩

theorem Valid.of_append (h : Valid (earlier ++ entries)) : Valid earlier := by
  obtain ⟨hnamed, hdistinct, htemplated⟩ := h
  rw [List.map_append] at hdistinct
  exact ⟨(List.forall_mem_append.mp hnamed).1, hdistinct.of_append_left,
    (List.forall_mem_append.mp htemplated).1⟩

/-- An entry with a fault ends a check, and any other leaves only its name behind. -/
theorem check_cons (earlier : List SourceEntry) (entry : SourceEntry) :
    (∃ fault, Offends earlier entry fault ∧ ∀ entries,
      check (earlier.map SourceEntry.name).reverse (entry :: entries) = .error fault) ∨
    (∀ fault, ¬ Offends earlier entry fault) ∧ ∀ entries,
      check (earlier.map SourceEntry.name).reverse (entry :: entries) =
        check ((earlier ++ [entry]).map SourceEntry.name).reverse entries := by
  have hseen : entry.name ∈ (earlier.map SourceEntry.name).reverse ↔
      entry.name ∈ earlier.map SourceEntry.name := List.mem_reverse
  by_cases hnamed : entry.IsNamed
  · have hblank : ¬ Text.isAllBlank entry.name.toList := fun h =>
      SourceEntry.isAllBlank_iff.mp h hnamed
    by_cases htaken : entry.name ∈ earlier.map SourceEntry.name
    · refine Or.inl ⟨_, .duplicateName hnamed htaken, fun entries => ?_⟩
      rw [check, if_neg hblank, if_pos (hseen.mpr htaken)]
    · by_cases hempty : entry.template.text = ""
      · refine Or.inl ⟨_, .noTemplate hnamed htaken hempty, fun entries => ?_⟩
        rw [check, if_neg hblank, if_neg (mt hseen.mp htaken), if_pos (Path.isEmpty_iff.mpr hempty)]
      · refine Or.inr ⟨not_offends_iff.mpr ⟨hnamed, htaken, hempty⟩, fun entries => ?_⟩
        rw [check, if_neg hblank, if_neg (mt hseen.mp htaken), if_neg (mt Path.isEmpty_iff.mp hempty),
          List.map_append, List.reverse_append]
        rfl
  · refine Or.inl ⟨_, .blankName hnamed, fun entries => ?_⟩
    rw [check, if_pos (SourceEntry.isAllBlank_iff.mpr hnamed)]

theorem check_eq_ok_iff (h : Valid earlier) :
    check (earlier.map SourceEntry.name).reverse entries = .ok () ↔ Valid (earlier ++ entries) := by
  induction entries generalizing earlier with
  | nil => simp [check, h]
  | cons entry entries ih =>
    rw [← List.singleton_append, ← List.append_assoc]
    rcases check_cons earlier entry with ⟨fault, hoffends, hcheck⟩ | ⟨hfits, hcheck⟩
    · rw [List.singleton_append, hcheck]
      refine iff_of_false nofun fun hvalid => ?_
      exact (valid_concat.mp hvalid.of_append).2 fault hoffends
    · rw [List.singleton_append, hcheck, ih (valid_concat.mpr ⟨h, hfits⟩)]

theorem check_eq_error_iff :
    check (earlier.map SourceEntry.name).reverse entries = .error fault ↔
      ∃ before entry after, entries = before ++ entry :: after ∧
        check (earlier.map SourceEntry.name).reverse before = .ok () ∧
        Offends (earlier ++ before) entry fault := by
  induction entries generalizing earlier with
  | nil => simp [check]
  | cons entry entries ih =>
    rcases check_cons earlier entry with ⟨fault', hoffends, hcheck⟩ | ⟨hfits, hcheck⟩
    · -- The first entry is the culprit, and no check gets past it.
      rw [hcheck]
      constructor
      · intro h
        obtain rfl := Except.error.inj h
        exact ⟨[], entry, entries, rfl, rfl, by rwa [List.append_nil]⟩
      · rintro ⟨_ | ⟨first, before⟩, culprit, after, hsplit, hok, hculprit⟩
        · obtain ⟨rfl, rfl⟩ := List.cons.inj hsplit
          rw [List.append_nil] at hculprit
          rw [hculprit.unique hoffends]
        · obtain ⟨rfl, rfl⟩ := List.cons.inj hsplit
          rw [hcheck] at hok
          cases hok
    · -- The culprit is among the rest, and the first entry is one of those before it.
      rw [hcheck, ih]
      constructor
      · rintro ⟨before, culprit, after, rfl, hok, hculprit⟩
        refine ⟨entry :: before, culprit, after, rfl, (hcheck before).trans hok, ?_⟩
        rwa [List.append_assoc] at hculprit
      · rintro ⟨_ | ⟨first, before⟩, culprit, after, hsplit, hok, hculprit⟩
        · obtain ⟨rfl, rfl⟩ := List.cons.inj hsplit
          rw [List.append_nil] at hculprit
          exact absurd hculprit (hfits fault)
        · obtain ⟨rfl, rfl⟩ := List.cons.inj hsplit
          refine ⟨before, culprit, after, rfl, (hcheck before).symm.trans hok, ?_⟩
          rwa [List.append_assoc]

end

section
variable {s : Sources} {entry : SourceEntry} {fault : Fault}

theorem validate_eq_ok_iff : s.validate = .ok () ↔ Valid s.entries := check_eq_ok_iff valid_nil

/-- The fault that is reported is that of the first entry that has one. -/
theorem validate_eq_error_iff :
    s.validate = .error fault ↔ ∃ before entry after, s.entries = before ++ entry :: after ∧
      Valid before ∧ Offends before entry fault := by
  have h : s.validate = .error fault ↔ _ := @check_eq_error_iff [] s.entries fault
  rw [h]
  simp only [check_eq_ok_iff valid_nil, List.nil_append]

/-- Where names are all different, each leads to its entry. -/
theorem get?_name (h : (s.entries.map SourceEntry.name).Nodup) (hmem : entry ∈ s.entries) :
    s.get? entry.name = some entry := by
  obtain ⟨before, after, hsplit⟩ := List.append_of_mem hmem
  rw [hsplit, List.map_append, List.nodup_append] at h
  rw [get?, List.find?_eq_some_iff_append]
  refine ⟨decide_eq_true rfl, before, after, hsplit, fun other hother => ?_⟩
  have hne := h.2.2 other.name (List.mem_map_of_mem hother) entry.name List.mem_cons_self
  simpa using hne

end

end Sources

namespace SourceEntry

variable {parsed loaded : SourceEntry} {path : Path}

/-- The same entry, but with a template that lies beside the file unless it is absolute. -/
structure Resolves (path : Path) (parsed loaded : SourceEntry) : Prop where
  name : loaded.name = parsed.name
  weight : loaded.weight = parsed.weight
  paths : loaded.paths = parsed.paths
  absolute : parsed.template.isAbsolute = true → loaded.template = parsed.template
  beside : parsed.template.isAbsolute = false → ∀ base, path.parent? = some base →
    loaded.template = base.join parsed.template
  alone : path.parent? = none → loaded.template = parsed.template

/-- An entry as it is meant in a file. -/
def seenFrom (entry : SourceEntry) (path : Path) : SourceEntry :=
  { entry with template := path.parent?.elim entry.template (·.join entry.template) }

theorem resolves_iff : Resolves path parsed loaded ↔ parsed.seenFrom path = loaded := by
  constructor
  · rintro ⟨hname, hweight, hpaths, habsolute, hbeside, halone⟩
    have htemplate : path.parent?.elim parsed.template (·.join parsed.template) =
        loaded.template := by
      cases h : path.parent? with
      | none => exact (halone h).symm
      | some base =>
        rw [Option.elim_some]
        cases ha : parsed.template.isAbsolute with
        | true => rw [Path.join_of_isAbsolute ha, habsolute ha]
        | false => exact (hbeside ha base h).symm
    rw [seenFrom, htemplate, ← hname, ← hweight, ← hpaths]
  · rintro rfl
    refine ⟨rfl, rfl, rfl, fun ha => ?_, fun _ base h => ?_, fun h => ?_⟩
    · rw [seenFrom]
      cases path.parent? with
      | none => rfl
      | some base => exact Path.join_of_isAbsolute ha
    · rw [seenFrom, h, Option.elim_some]
    · rw [seenFrom, h, Option.elim_none]

theorem template_seenFrom_ne_empty (h : parsed.template.text ≠ "") :
    (parsed.seenFrom path).template.text ≠ "" := by
  rw [seenFrom]
  cases path.parent? with
  | none => exact h
  | some base => exact base.text_join_ne_empty h

end SourceEntry

namespace Sources

variable {s parsed : Sources} {path : Path}

theorem entries_seenFrom (s : Sources) (path : Path) :
    (s.seenFrom path).entries = s.entries.map (·.seenFrom path) := by
  rw [seenFrom]
  cases h : path.parent? with
  | none => simp [SourceEntry.seenFrom, h]
  | some base => simp [SourceEntry.seenFrom, h, within]

theorem forall₂_resolves_iff :
    List.Forall₂ (SourceEntry.Resolves path) parsed.entries s.entries ↔
      parsed.seenFrom path = s := by
  have hentries : parsed.seenFrom path = s ↔ (parsed.seenFrom path).entries = s.entries := by
    rw [← Sources.mk.injEq]
  have hresolves : SourceEntry.Resolves path = fun parsed loaded => parsed.seenFrom path = loaded :=
    funext₂ fun _ _ => propext SourceEntry.resolves_iff
  rw [hentries, entries_seenFrom, ← List.forall₂_eq_eq_eq, List.forall₂_map_left_iff, hresolves]

theorem Valid.seenFrom (h : Valid s.entries) (path : Path) : Valid (s.seenFrom path).entries := by
  rw [entries_seenFrom]
  refine ⟨List.forall_mem_map.mpr h.named, ?_, List.forall_mem_map.mpr fun entry hmem => ?_⟩
  · rw [List.map_map]
    exact h.distinct
  · exact SourceEntry.template_seenFrom_ne_empty (h.templated entry hmem)

/-- Sources are accepted just when every name has a character that is no white space, no two names
are equal and every template is there. Otherwise the first source at fault is reported, a blank name
before a name that is taken and this before a missing template. The name of an accepted source leads
to it. Sources are loaded from a file just when its text holds sources that are accepted, which are
then seen from the directory of the file and are accepted again. -/
theorem validate_exact :
    (∀ s : Sources, s.validate = .ok () ↔ Valid s.entries) ∧
    (∀ (s : Sources) fault, s.validate = .error fault ↔ ∃ before entry after,
      s.entries = before ++ entry :: after ∧ Valid before ∧ Offends before entry fault) ∧
    (∀ s : Sources, s.validate = .ok () → ∀ entry ∈ s.entries, s.get? entry.name = some entry) ∧
    ∀ (fs : FileSystem Id) (path : Path) (s : Sources),
      ((load fs path).run = .ok s ↔ ∃ text parsed, (fs.readText path).run = .ok text ∧
        (Yaml.Document.ofText text >>= ofDocument) = .ok parsed ∧ parsed.validate = .ok () ∧
        List.Forall₂ (SourceEntry.Resolves path) parsed.entries s.entries) ∧
      ((load fs path).run = .ok s → s.validate = .ok ()) := by
  refine ⟨fun s => validate_eq_ok_iff, fun s fault => validate_eq_error_iff, fun s h entry => ?_,
    fun fs path s => ⟨?_, fun h => ?_⟩⟩
  · exact get?_name (validate_eq_ok_iff.mp h).distinct
  · rw [load_eq_ok_iff, IsAt]
    simp only [FileSystem.readText_eq_ok_iff, forall₂_resolves_iff]
    constructor
    · rintro ⟨bytes, chars, parsed, hread, hdecode, hparse, hvalid, hseen⟩
      exact ⟨_, parsed, ⟨bytes, chars, hread, hdecode, rfl⟩, hparse, hvalid, hseen⟩
    · rintro ⟨-, parsed, ⟨bytes, chars, hread, hdecode, rfl⟩, hparse, hvalid, hseen⟩
      exact ⟨bytes, chars, parsed, hread, hdecode, hparse, hvalid, hseen⟩
  · obtain ⟨-, -, parsed, -, -, -, hvalid, rfl⟩ := load_eq_ok_iff.mp h
    exact validate_eq_ok_iff.mpr ((validate_eq_ok_iff.mp hvalid).seenFrom path)

/-- Two lists with three faults each, and a file with a template beside it and one that is absolute. -/
theorem validate_exact_services :
    let a : SourceEntry := ⟨"a", ⟨"t"⟩, 0, []⟩
    let again : SourceEntry := ⟨"a", ⟨""⟩, 0, []⟩
    let blank : SourceEntry := ⟨" \t", ⟨""⟩, 0, []⟩
    let text := "sources:\n- name: a\n  template: t\n- name: b\n  template: /t\n  weight: 4\n" ++
      "  paths: [x]\n"
    let store := (Files.Store.empty Files.Store.standardRoot).addFile ⟨"conf/s"⟩
      (Text.encodeUtf8 text)
    let b : SourceEntry := ⟨"b", ⟨"/t"⟩, 4, ["x"]⟩
    let loaded : Sources := ⟨[{ a with template := ⟨"/mock/conf/t"⟩ }, b]⟩
    (Sources.mk [a, again, blank]).validate = .error (.duplicateName "a") ∧
      (Sources.mk [a, blank, again]).validate = .error .blankName ∧
      (load store.fileSystem ⟨"/mock/conf/s"⟩).run = .ok loaded ∧ loaded.validate = .ok () ∧
      loaded.get? "b" = some b := by
  intro a again blank text store b loaded
  obtain ⟨haccepts, hrefuses, hfound, hload⟩ := validate_exact
  have ha : Valid [a] := (haccepts ⟨[a]⟩).mp (by decide)
  have hloaded : (load store.fileSystem ⟨"/mock/conf/s"⟩).run = .ok loaded := by
    refine (hload _ _ _).1.mpr ⟨text, ⟨[a, b]⟩, by decide +kernel, by decide +kernel, by decide, ?_⟩
    have hparent : Path.parent? ⟨"/mock/conf/s"⟩ = some ⟨"/mock/conf"⟩ := by decide +kernel
    refine .cons ⟨rfl, rfl, rfl, by decide, fun _ base hbase => ?_, by simp [hparent]⟩
      (.cons ⟨rfl, rfl, rfl, fun _ => rfl, fun h => absurd h (by decide), by simp [hparent]⟩ .nil)
    obtain rfl := Option.some.inj (hparent.symm.trans hbase)
    decide
  have hvalid := (hload _ _ _).2 hloaded
  refine ⟨?_, ?_, hloaded, hvalid, hfound _ hvalid b (by decide)⟩
  · exact (hrefuses _ _).mpr ⟨[a], again, [blank], rfl, ha,
      .duplicateName ⟨'a', by decide, by decide⟩ (by decide)⟩
  · exact (hrefuses _ _).mpr ⟨[a], blank, [again], rfl, ha,
      .blankName (SourceEntry.isAllBlank_iff.mp (by decide))⟩

end Sources
end ServiceAtlas
