import ServiceAtlas.Proofs.Extract.Operations
import ServiceAtlas.Proofs.Record.Growth

/-!
# What a record holds

The instance lists and the warnings of a record, its cursors left out. While every cursor is on the
last instance, what an operation does to them can be told without the cursors: a release does
nothing, and every other operation only adds. Releases may therefore stand anywhere between
operations, and what was closed before an operation is unchanged behind it.
-/
namespace ServiceAtlas

/-- The instance lists and the warnings of a record. -/
structure Holdings where
  contents : Contents Schema.record
  warnings : List String

namespace Holdings

/-- What a change does where there are no cursors. -/
def apply (h : Holdings) : Change → Holdings
  | .put w => { h with contents := h.contents.write w.address w.value }
  | .warn message => { h with warnings := h.warnings ++ [message] }
  | .release => h

def applyAll (h : Holdings) (cs : List Change) : Holdings := cs.foldl apply h

/-- The contents have grown, and warnings were only added. -/
def Grown (h k : Holdings) : Prop := h.contents.Grown k.contents ∧ h.warnings <+: k.warnings

theorem Grown.refl (h : Holdings) : h.Grown h := ⟨.refl h.contents, List.prefix_rfl⟩

theorem Grown.trans {h k l : Holdings} (hk : h.Grown k) (kl : k.Grown l) : h.Grown l :=
  ⟨hk.1.trans kl.1, hk.2.trans kl.2⟩

theorem grown_apply (h : Holdings) (c : Change) : h.Grown (h.apply c) := by
  cases c with
  | put w => exact ⟨Contents.grown_write w.value h.contents, List.prefix_rfl⟩
  | warn message => exact ⟨.refl h.contents, List.prefix_append h.warnings [message]⟩
  | release => exact .refl h

theorem grown_applyAll (h : Holdings) (cs : List Change) : h.Grown (h.applyAll cs) := by
  induction cs generalizing h with
  | nil => exact .refl h
  | cons c cs ih => exact (grown_apply h c).trans (ih (h.apply c))

end Holdings

namespace Operation

def isRelease : Operation → Bool
  | release => true
  | store .. => false
  | apply .. => false
  | extract .. => false

def withoutReleases (ops : List Operation) : List Operation := ops.filter fun op => !op.isRelease

end Operation

namespace Record

def holdings (r : Record) : Holdings := ⟨r.collections.contents, r.warnings⟩

theorem holdings_apply {r : Record} (h : r.collections.CursorsOnLast) (c : Change) :
    (r.apply c).holdings = r.holdings.apply c := by
  cases c with
  | put w => exact congrArg (Holdings.mk · r.warnings) (Collections.contents_write w.value h)
  | warn message => rfl
  | release => exact congrArg (Holdings.mk · r.warnings) (Collections.contents_release r.collections)

theorem holdings_applyAll {r : Record} (h : r.collections.CursorsOnLast) (cs : List Change) :
    (r.applyAll cs).holdings = r.holdings.applyAll cs := by
  induction cs generalizing r with
  | nil => rfl
  | cons c cs ih =>
    rw [applyAll_cons, ih (cursorsOnLast_apply h c), holdings_apply h c]
    rfl

/-- The record after an operation, whether it succeeds or not. -/
def perform (r : Record) (op : Operation) : Record := (op.run.runOn r).2

def performAll (r : Record) (ops : List Operation) : Record := ops.foldl perform r

/-- Operations one after the other, each with its outcome. -/
def outcomes (r : Record) : List Operation → List (Operation × Except ExtractError Unit)
  | [] => []
  | op :: ops => (op, (op.run.runOn r).1) :: (r.perform op).outcomes ops

theorem perform_eq (r : Record) (op : Operation) : r.perform op = r.applyAll op.script.changes :=
  congrArg Prod.snd (op.performs_run r)

theorem cursorsOnLast_perform {r : Record} (h : r.collections.CursorsOnLast) (op : Operation) :
    (r.perform op).collections.CursorsOnLast := by
  rw [perform_eq]
  exact cursorsOnLast_applyAll h _

theorem holdings_perform {r : Record} (h : r.collections.CursorsOnLast) (op : Operation) :
    (r.perform op).holdings = r.holdings.applyAll op.script.changes := by
  rw [perform_eq, holdings_applyAll h]

/-- The outcome of an operation does not depend on the record. -/
theorem outcomes_eq_map (r : Record) (ops : List Operation) :
    r.outcomes ops = ops.map fun op => (op, op.script.result) := by
  induction ops generalizing r with
  | nil => rfl
  | cons op ops ih => rw [outcomes, ih, op.performs_run r, List.map_cons]

/-- A run on one record and the run without releases on another one that holds the same. -/
theorem holdings_performAll_withoutReleases {r s : Record} (hr : r.collections.CursorsOnLast)
    (hs : s.collections.CursorsOnLast) (h : r.holdings = s.holdings) (ops : List Operation) :
    (r.performAll ops).holdings = (s.performAll (Operation.withoutReleases ops)).holdings := by
  induction ops generalizing r s with
  | nil => exact h
  | cons op ops ih =>
    have hrp := cursorsOnLast_perform hr op
    have hsp := cursorsOnLast_perform hs op
    have hsame : (r.perform op).holdings = (s.perform op).holdings := by
      rw [holdings_perform hr, holdings_perform hs, h]
    cases op with
    | release =>
      -- The other run leaves the release out and stays where it is.
      exact ih hrp hs ((holdings_perform hr .release).trans h)
    | store target text => exact ih hrp hsp hsame
    | apply setter value => exact ih hrp hsp hsame
    | extract template document => exact ih hrp hsp hsame

theorem released_release (r : Record) : r.release.collections.Released := by
  let cleared (_ : Nat) (cursor : Option Nat) : Prop := cursor = none
  have h : ∀ size, cleared size none := fun _ => rfl
  exact (Collections.each_iff_extents cleared "" _).mp (Collections.each_release h r.collections)

/-- Releasing clears every cursor and leaves what the record holds as it is. No outcome of a later
operation, and nothing that is held in the end, depends on the releases in between. -/
theorem release_unobservable (before : List Operation) :
    let r := after before
    r.release.collections.Released ∧ r.release.holdings = r.holdings ∧
      ∀ ops,
        (r.outcomes ops).filter (fun o => !o.1.isRelease) =
            r.outcomes (Operation.withoutReleases ops) ∧
          (r.performAll ops).holdings =
            (r.performAll (Operation.withoutReleases ops)).holdings := by
  intro r
  have hr : r.collections.CursorsOnLast := cursorsOnLast_after before
  refine ⟨released_release r, holdings_apply hr .release, ?_⟩
  intro ops
  refine ⟨?_, holdings_performAll_withoutReleases hr hr rfl ops⟩
  rw [outcomes_eq_map, outcomes_eq_map, List.filter_map]
  rfl

/-- An operation, failing or not, only adds. No collection gets shorter, closed instances are as they
were, the last instance of each list has kept its values, and the warnings are still there. -/
theorem grown_perform (before : List Operation) (op : Operation) :
    let r := after before
    let r' := (op.run.runOn r).2
    r.collections.contents.Grown r'.collections.contents ∧ r.warnings <+: r'.warnings ∧
      ∀ e ∈ r.collections.extents "", ∃ e' ∈ r'.collections.extents "",
        e'.place = e.place ∧ e.size ≤ e'.size := by
  intro r r'
  have hg : r.holdings.Grown r'.holdings := by
    rw [show r'.holdings = _ from holdings_perform (cursorsOnLast_after before) op]
    exact Holdings.grown_applyAll _ _
  exact ⟨hg.1, hg.2, Collections.exists_extent_of_grown hg.1 ""⟩

end Record
end ServiceAtlas
