import Mathlib.Data.List.Basic
import Mathlib.Data.List.Induction
import ServiceAtlas.Proofs.Files.Store

/-!
# Stores after additions

Files and directories are added to a store in any order, and the same place may be written to again
and again. A directory never takes the place of a file, so that the last file added at a place stays
there, and nothing is ever taken away, so that the places above an entry stay taken.
-/
namespace ServiceAtlas.Files

theorem prefix_iff_eq_or_prefix_dropLast {place other : Place} :
    other <+: place ↔ other = place ∨ other <+: place.dropLast := by
  rcases List.eq_nil_or_concat' place with rfl | ⟨above, c, rfl⟩
  · simp
  · rw [List.prefix_concat_iff, List.dropLast_concat]

theorem mem_placesTo_iff {place other : Place} :
    other ∈ placesTo place ↔ other ≠ [] ∧ other <+: place := by
  induction place generalizing other with
  | nil => simp [placesTo]
  | cons c place ih =>
    cases other with
    | nil => simp [placesTo]
    | cons d other =>
      rw [placesTo, List.mem_cons, List.mem_map, List.cons_prefix_cons]
      constructor
      · rintro (h | ⟨below, hbelow, h⟩)
        · obtain ⟨rfl, rfl⟩ := List.cons.inj h
          exact ⟨List.cons_ne_nil _ _, rfl, List.nil_prefix⟩
        · obtain ⟨rfl, rfl⟩ := List.cons.inj h
          exact ⟨List.cons_ne_nil _ _, rfl, (ih.mp hbelow).2⟩
      · rintro ⟨-, rfl, h⟩
        by_cases hnil : other = []
        · exact Or.inl (by rw [hnil])
        · exact Or.inr ⟨other, ih.mpr ⟨hnil, h⟩, rfl⟩

namespace Listing

variable {l : Listing} {place other : Place} {content new : Text.Bytes}

theorem get?_foldl_putDirectory (places : List Place) :
    (places.foldl putDirectory l).get? other =
      if other ∈ places then some ((l.get? other).getD .directory) else l.get? other := by
  induction places generalizing l with
  | nil => simp
  | cons place places ih =>
    rw [List.foldl_cons, ih, get?_putDirectory]
    by_cases hplace : other = place <;> by_cases hplaces : other ∈ places <;> simp [hplace, hplaces]

theorem get?_addDirectory : (l.addDirectory place).get? other =
    if other ∈ placesTo place then some ((l.get? other).getD .directory) else l.get? other :=
  get?_foldl_putDirectory (placesTo place)

theorem isSome_get?_addDirectory :
    ((l.addDirectory place).get? other).isSome ↔
      (other ≠ [] ∧ other <+: place) ∨ (l.get? other).isSome := by
  rw [get?_addDirectory, ← mem_placesTo_iff]
  split <;> simp [*]

theorem get?_addDirectory_eq_file_iff :
    (l.addDirectory place).get? other = some (.file content) ↔
      l.get? other = some (.file content) := by
  rw [get?_addDirectory]
  split
  · cases l.get? other <;> simp
  · rfl

theorem isSome_get?_addFile :
    ((l.addFile place new).get? other).isSome ↔
      place = other ∨ (other ≠ [] ∧ other <+: place) ∨ (l.get? other).isSome := by
  rw [addFile, get?_put, prefix_iff_eq_or_prefix_dropLast]
  by_cases h : other = place
  · simp [h]
  · simp only [h, Ne.symm h, if_false, isSome_get?_addDirectory, false_or]

theorem get?_addFile_eq_file_iff :
    (l.addFile place new).get? other = some (.file content) ↔
      if other = place then new = content else l.get? other = some (.file content) := by
  rw [addFile, get?_put]
  split
  · simp
  · exact get?_addDirectory_eq_file_iff

end Listing

/-- What is added to a store. -/
inductive Addition where
  | file (path : Path) (content : Text.Bytes)
  | directory (path : Path)

namespace Addition

def path : Addition → Path
  | file path _ | directory path => path

/-- Whether a file with this content is added at this place. -/
def Puts (root : Path) (place : Place) (content : Text.Bytes) : Addition → Prop
  | file path new => (root.join path).components = place ∧ new = content
  | directory _ => False

/-- Whether the place is that of a file that is added, or on the way to what is added. -/
def Takes (root : Path) (place : Place) (a : Addition) : Prop :=
  (∃ content, a.Puts root place content) ∨
    place ≠ [] ∧ place <+: (root.join a.path).components

/-- What is on the way to a place that is taken is taken as well. -/
theorem Takes.of_prefix {root : Path} {place above : Place} {a : Addition} (h : a.Takes root place)
    (habove : above <+: place) (hne : above ≠ []) : a.Takes root above := by
  rcases h with ⟨content, hputs⟩ | ⟨-, hplace⟩
  · cases a with
    | file path new => exact Or.inr ⟨hne, hputs.1 ▸ habove⟩
    | directory path => exact hputs.elim
  · exact Or.inr ⟨hne, habove.trans hplace⟩

end Addition

namespace Store

def add (s : Store) : Addition → Store
  | .file path content => s.addFile path content
  | .directory path => s.addDirectory path

section
variable {s : Store} {a : Addition} {place : Place} {content : Text.Bytes}

@[simp] theorem root_add (s : Store) (a : Addition) : (s.add a).root = s.root := by
  cases a <;> rfl

/-- The files after an addition are the one added and those at other places. -/
theorem get?_add_eq_file_iff :
    (s.add a).listing.get? place = some (.file content) ↔
      a.Puts s.root place content ∨
        s.listing.get? place = some (.file content) ∧ ∀ new, ¬ a.Puts s.root place new := by
  cases a with
  | file path new =>
    rw [add, addFile, Listing.get?_addFile_eq_file_iff]
    by_cases h : place = s.place path
    · simp [h, Addition.Puts, Store.place]
    · have hplace : (s.root.join path).components ≠ place := Ne.symm h
      simp [h, Addition.Puts, hplace]
  | directory path => simp [add, addDirectory, Listing.get?_addDirectory_eq_file_iff, Addition.Puts]

/-- Nothing is taken away by an addition. -/
theorem isSome_get?_add_iff :
    ((s.add a).listing.get? place).isSome ↔
      a.Takes s.root place ∨ (s.listing.get? place).isSome := by
  cases a with
  | file path new =>
    rw [add, addFile, Listing.isSome_get?_addFile]
    simp [Addition.Takes, Addition.Puts, Addition.path, Store.place, or_assoc]
  | directory path =>
    rw [add, addDirectory, Listing.isSome_get?_addDirectory]
    simp [Addition.Takes, Addition.Puts, Addition.path, Store.place]

end

/-- The store under a root after additions to an empty one. -/
def after (root : Path) (additions : List Addition) : Store := additions.foldl add (empty root)

/-- The last file that is added at a place. -/
def LastFile (root : Path) (additions : List Addition) (place : Place) (content : Text.Bytes) :
    Prop :=
  ∃ before a later, additions = before ++ a :: later ∧ a.Puts root place content ∧
    ∀ other ∈ later, ∀ new, ¬ other.Puts root place new

section
variable {root : Path} {additions : List Addition} {a : Addition} {place : Place}
  {content : Text.Bytes}

theorem after_concat (root : Path) (additions : List Addition) (a : Addition) :
    after root (additions ++ [a]) = (after root additions).add a :=
  List.foldl_concat ..

@[simp] theorem root_after (root : Path) (additions : List Addition) :
    (after root additions).root = root := by
  induction additions using List.reverseRecOn with
  | nil => rfl
  | append_singleton additions a ih => rw [after_concat, root_add, ih]

theorem lastFile_concat :
    LastFile root (additions ++ [a]) place content ↔
      a.Puts root place content ∨
        LastFile root additions place content ∧ ∀ new, ¬ a.Puts root place new := by
  constructor
  · rintro ⟨before, last, later, hsplit, hputs, hlater⟩
    rcases List.eq_nil_or_concat' later with rfl | ⟨later, b, rfl⟩
    · obtain ⟨-, hlast⟩ := List.append_inj' hsplit rfl
      obtain rfl := List.singleton_inj.mp hlast
      exact Or.inl hputs
    · rw [← List.cons_append, ← List.append_assoc] at hsplit
      obtain ⟨hadditions, hb⟩ := List.append_inj' hsplit rfl
      obtain rfl := List.singleton_inj.mp hb
      obtain ⟨hlater, hlast⟩ := List.forall_mem_append.mp hlater
      exact Or.inr ⟨⟨before, last, later, hadditions, hputs, hlater⟩, hlast a (by simp)⟩
  · rintro (hputs | ⟨⟨before, last, later, rfl, hputs, hlater⟩, hlast⟩)
    · exact ⟨additions, a, [], rfl, hputs, nofun⟩
    · refine ⟨before, last, later ++ [a], by simp, hputs, ?_⟩
      exact List.forall_mem_append.mpr ⟨hlater, List.forall_mem_singleton.mpr hlast⟩

theorem exists_lastFile_iff :
    (∃ content, LastFile root additions place content) ↔
      ∃ a ∈ additions, ∃ content, a.Puts root place content := by
  induction additions using List.reverseRecOn with
  | nil => simp [LastFile]
  | append_singleton additions a ih =>
    by_cases h : ∃ content, a.Puts root place content
    · obtain ⟨content, hputs⟩ := h
      exact iff_of_true ⟨content, lastFile_concat.mpr (Or.inl hputs)⟩
        ⟨a, by simp, content, hputs⟩
    · have hnot := not_exists.mp h
      simp [lastFile_concat, hnot, ih, or_and_right, exists_or]

/-- The files of a store are those added last at their places. -/
theorem get?_after_eq_file_iff :
    (after root additions).listing.get? place = some (.file content) ↔
      LastFile root additions place content := by
  induction additions using List.reverseRecOn with
  | nil => simp [after, empty, LastFile]
  | append_singleton additions a ih =>
    rw [after_concat, get?_add_eq_file_iff, root_after, ih, lastFile_concat]

/-- The entries of a store are at the places that were ever taken. -/
theorem isSome_get?_after_iff :
    ((after root additions).listing.get? place).isSome ↔
      ∃ a ∈ additions, a.Takes root place := by
  induction additions using List.reverseRecOn with
  | nil => simp [after, empty]
  | append_singleton additions a ih =>
    rw [after_concat, isSome_get?_add_iff, root_after, ih]
    simp [or_and_right, exists_or, or_comm]

end

/-- A store keeps what was added to it. A read at a path gives the content of the last file added at
its place, whatever else was added before and after, and fails where none was. A path is a file just
when it can be read, and then its size is that of the content. A place has an entry just when a file
was added there or something was added there or below it, so that the places above an entry have
entries too. -/
theorem answers_after (root : Path) (additions : List Addition) :
    let s := after root additions
    (∀ p content, s.read p = .ok content ↔
      LastFile root additions (root.join p).components content) ∧
    (∀ p, (∃ error, s.read p = .error error) ↔
      ∀ a ∈ additions, ∀ content, ¬ a.Puts root (root.join p).components content) ∧
    (∀ p, (s.isFile p = true ↔ ∃ content, s.read p = .ok content) ∧
      ((∃ info, s.info p = .ok info ∧ info.isFile = true) ↔ ∃ content, s.read p = .ok content) ∧
      ∀ content, s.read p = .ok content → s.info p = .ok ⟨content.length, .file⟩) ∧
    (∀ p, (s.fileSystem.isThere p).run = true ↔
      ∃ a ∈ additions, a.Takes root (root.join p).components) ∧
    ∀ place above, (s.listing.get? place).isSome → above <+: place → above ≠ [] →
      (s.listing.get? above).isSome := by
  intro s
  have hplace (p : Path) : s.place p = (root.join p).components := by rw [place, root_after]
  have hfile (p : Path) (content : Text.Bytes) : s.entry? p = some (.file content) ↔
      LastFile root additions (root.join p).components content := by
    rw [← hplace]
    exact get?_after_eq_file_iff
  refine ⟨fun p content => ?_, fun p => ?_, fun p => ⟨?_, ?_, fun content h => ?_⟩,
    fun p => ?_, fun place above h habove hne => ?_⟩
  · rw [read_eq_ok_iff, hfile]
  · simp only [read_eq_error_iff, ne_eq, hfile]
    rw [← not_exists, exists_lastFile_iff]
    simp only [not_exists, not_and]
  · simp only [isFile_iff, read_eq_ok_iff]
  · simp only [isFile_info_iff, read_eq_ok_iff]
  · exact info_of_file (read_eq_ok_iff.mp h)
  · rw [← hplace]
    exact isSome_get?_after_iff
  · obtain ⟨a, hmem, htakes⟩ := isSome_get?_after_iff.mp h
    exact isSome_get?_after_iff.mpr ⟨a, hmem, htakes.of_prefix habove hne⟩

/-- A file that is written over under another spelling of its path, with a directory asked for at
the same place and one below it, and a file put above it. -/
theorem answers_after_overwritten :
    let additions : List Addition := [.file ⟨"a/b"⟩ [1], .directory ⟨"a/b/c"⟩,
      .file ⟨"/r//a/./b/"⟩ [2, 3], .file ⟨"a"⟩ [4], .directory ⟨"/r/a/b"⟩]
    let s := after ⟨"/r"⟩ additions
    let b : Path := ⟨"./a/b"⟩
    s.read b = .ok [2, 3] ∧ s.isFile b = true ∧ s.info b = .ok ⟨2, .file⟩ ∧
      (∃ error, s.read ⟨"a/b/c"⟩ = .error error) ∧
      (s.fileSystem.isThere ⟨"a/b/c"⟩).run = true ∧
      (s.listing.get? [['/'], ['r'], ['a']]).isSome := by
  intro additions s b
  obtain ⟨hread, hfails, hfile, hthere, habove⟩ := answers_after ⟨"/r"⟩ additions
  have hb : s.read b = .ok [2, 3] := by
    refine (hread b [2, 3]).mpr ⟨[.file ⟨"a/b"⟩ [1], .directory ⟨"a/b/c"⟩],
      .file ⟨"/r//a/./b/"⟩ [2, 3], [.file ⟨"a"⟩ [4], .directory ⟨"/r/a/b"⟩], rfl,
      ⟨by decide, rfl⟩, List.forall_mem_cons.mpr ⟨?_, List.forall_mem_singleton.mpr ?_⟩⟩
    · exact fun new hputs => absurd hputs.1 (by decide)
    · exact fun new hputs => hputs
  have hc : (s.fileSystem.isThere ⟨"a/b/c"⟩).run = true :=
    (hthere _).mpr ⟨.directory ⟨"a/b/c"⟩, by simp [additions], Or.inr (by decide)⟩
  refine ⟨hb, (hfile b).1.mpr ⟨_, hb⟩, (hfile b).2.2 _ hb, (hfails _).mpr ?_, hc,
    habove _ _ hc (by decide) (by decide)⟩
  simp only [additions, List.forall_mem_cons, Addition.Puts]
  exact ⟨fun _ hputs => absurd hputs.1 (by decide), nofun,
    fun _ hputs => absurd hputs.1 (by decide), fun _ hputs => absurd hputs.1 (by decide), nofun,
    nofun⟩

end Store
end ServiceAtlas.Files
