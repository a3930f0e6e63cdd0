import ServiceAtlas.Proofs.Leaf.Failure
import ServiceAtlas.Proofs.Leaf.Filling
import ServiceAtlas.Proofs.Leaf.Parts

/-!
# Closed patterns

A pattern that begins with a token and ends in one, or in a forced end, has a path for each part that
a value can be split into. A leaf that parses by it never meets too many parts.
-/
namespace ServiceAtlas

namespace Part

/-- One for a token. -/
def tokenCount : Part → Nat
  | token _ => 1
  | separator _ => 0

/-- One for a separator. -/
def separatorCount : Part → Nat
  | token _ => 0
  | separator _ => 1

theorem WellFormed.written_ne_nil {p : Part} (h : p.WellFormed) : p.written ≠ [] := by
  cases p with
  | token path =>
    obtain ⟨rest, rfl, -⟩ := h
    exact List.cons_ne_nil '.' rest
  | separator s => exact h.1

/-- A part that ends in the mark of a forced end is one. -/
theorem WellFormed.exists_forcedEnd {p : Part} (h : p.WellFormed)
    (hmark : p.written.getLast? = some '$') : ∃ s, p = .separator s ∧ s.forcedEnd = true := by
  cases p with
  | token path =>
    obtain ⟨rest, rfl, hrest⟩ := h
    have hpath : Pattern.isPathChar '$' = true :=
      List.forall_mem_cons.mpr ⟨by decide, hrest⟩ '$' (List.mem_of_getLast? hmark)
    exact absurd hpath (by decide)
  | separator s =>
    refine ⟨s, rfl, ?_⟩
    cases hs : s.forcedEnd with
    | true => rfl
    | false =>
      have hliteral : s.literal.getLast? = some '$' := by
        simpa [written, Separator.written, hs] using hmark
      exact absurd rfl (h.2.2 hs '$' hliteral)

end Part

namespace Pattern

/-- A pattern in which tokens are at both ends, or a token at the head and a forced end behind. -/
structure Closed (text : List Char) : Prop where
  head : text.head? = some '.'
  last : (∃ path, (pieces text).getLast? = some (.token path)) ∨ text.getLast? = some '$'

section Parts

variable {p last : Part} {parts : List Part}

/-- Of tokens and separators in turn there are as many, but for the ends. -/
theorem length_paths_add (h : (p :: parts).IsChain Part.Follows)
    (hlast : (p :: parts).getLast? = some last) :
    (ofParts (p :: parts)).paths.length + p.separatorCount =
      (ofParts (p :: parts)).separators.length + last.tokenCount := by
  induction parts generalizing p with
  | nil =>
    obtain rfl : p = last := by simpa using hlast
    cases p <;> rfl
  | cons q parts ih =>
    obtain ⟨hfollows, hrest⟩ := List.isChain_cons_cons.mp h
    have hcount := ih hrest (by rw [← hlast, List.getLast?_cons_cons])
    cases p with
    | token path =>
      cases q with
      | token other => exact hfollows.elim
      | separator s =>
        simp only [ofParts_token_cons, ofParts_separator_cons, List.length_cons,
          Part.separatorCount] at hcount ⊢
        omega
    | separator s =>
      cases q with
      | token path =>
        simp only [ofParts_token_cons, ofParts_separator_cons, List.length_cons,
          Part.separatorCount] at hcount ⊢
        omega
      | separator other => exact hfollows.elim

/-- A pattern ends in what its last part ends in. -/
theorem getLast?_writtenParts (h : ∀ p ∈ parts, p.WellFormed) (hlast : parts.getLast? = some last) :
    (writtenParts parts).getLast? = last.written.getLast? := by
  obtain ⟨front, rfl⟩ := List.getLast?_eq_some_iff.mp hlast
  have hne := (h last (by simp)).written_ne_nil
  rw [writtenParts, List.flatMap_append, List.flatMap_singleton,
    List.getLast?_append_of_ne_nil _ hne]

end Parts

namespace Closed

variable {text : List Char}

/-- The first part of a closed pattern is a token, since the pattern begins with a dot. -/
theorem exists_partsOf_eq (h : Closed text) : ∃ path parts, partsOf text = .token path :: parts := by
  cases hparts : partsOf text with
  | nil =>
    have hnil := writtenParts_partsOf text
    rw [hparts] at hnil
    have hhead := h.head
    rw [← hnil] at hhead
    cases hhead
  | cons p parts =>
    cases p with
    | token path => exact ⟨path, parts, rfl⟩
    | separator s =>
      have hfirst : (partsOf text).head? = some (.separator s) := by rw [hparts]; rfl
      exact absurd h.head ((head?_partsOf_isSeparator_iff text).mp ⟨s, hfirst⟩).2

theorem paths_ne_nil (h : Closed text) : (read text).paths ≠ [] := by
  obtain ⟨path, parts, hparts⟩ := h.exists_partsOf_eq
  rw [← ofParts_partsOf, hparts, ofParts_token_cons]
  exact List.cons_ne_nil path _

/-- A closed pattern has a path for each part of a value. -/
theorem length_values_le (h : Closed text) (value : List Char) :
    (Split.ofValue (read text).separators value).values.length ≤ (read text).paths.length := by
  have hform := areParts_partsOf text
  obtain ⟨path, parts, hparts⟩ := h.exists_partsOf_eq
  obtain ⟨last, hlast⟩ : ∃ last, (partsOf text).getLast? = some last :=
    ⟨_, List.getLast?_eq_some_getLast (hparts ▸ List.cons_ne_nil _ parts)⟩
  have hcount := length_paths_add (hparts ▸ hform.alternating) (hparts ▸ hlast)
  rw [← hparts, Part.separatorCount, Nat.add_zero] at hcount
  rw [← ofParts_partsOf, hcount]
  rcases h.last with ⟨token, htoken⟩ | hmark
  · obtain rfl : Part.token token = last := by
      simpa [partsOf, htoken, Piece.part] using hlast
    exact Split.length_values_le _ value
  · rw [← writtenParts_partsOf text, getLast?_writtenParts hform.wellFormed hlast] at hmark
    have hlastForm := hform.wellFormed last (List.mem_of_getLast? hlast)
    obtain ⟨s, rfl, hs⟩ := hlastForm.exists_forcedEnd hmark
    obtain ⟨front, hfront⟩ := List.getLast?_eq_some_iff.mp hlast
    have hseparator : (ofParts (partsOf text)).separators.getLast? = some s := by
      change ((partsOf text).filterMap Part.separator?).getLast? = some s
      rw [hfront, List.filterMap_append]
      exact List.getLast?_concat
    exact Split.length_values_le_of_forced _ value hseparator hs

end Closed
end Pattern

namespace Setter

/-- A leaf whose only segment parses has one action. -/
theorem eq_parse_of_compile {leaf : String} {pattern : List Char} {s : Setter}
    (hleaf : Segment.texts leaf.toList = ["parse ".toList ++ pattern])
    (hpaths : (Pattern.read pattern).paths ≠ []) (hs : compile leaf = .ok s) :
    ∃ ts, (Pattern.read pattern).paths.mapM resolve = .ok ts ∧
      s = ⟨0, [.parse ts (Pattern.read pattern).separators]⟩ := by
  obtain ⟨segments, actions, hread, hactions, rfl⟩ := compile_eq_ok_iff.mp hs
  have hsegments : [.parse (Pattern.read pattern)] = segments := by
    rw [Segment.readAll, hleaf] at hread
    obtain ⟨seg, others, hseg, hothers, rfl⟩ := mapM_cons_eq_ok_iff.mp hread
    obtain rfl : [] = others := Except.ok.inj hothers
    rw [Except.ok.inj ((Segment.read_parse hpaths).symm.trans hseg)]
  subst hsegments
  obtain ⟨as, others, has, hothers, rfl⟩ := mapM_cons_eq_ok_iff.mp hactions
  obtain ⟨ts, hts, rfl⟩ := map_eq_ok_iff.mp has
  obtain rfl : [] = others := Except.ok.inj hothers
  exact ⟨ts, hts, rfl⟩

/-- A leaf that parses by a closed pattern has a path for each part that it splits a value into, and
so it never fails for too many parts. -/
theorem apply_closed {leaf : String} {pattern : List Char} {s : Setter}
    (hleaf : Segment.texts leaf.toList = ["parse ".toList ++ pattern])
    (hclosed : Pattern.Closed pattern) (hs : compile leaf = .ok s) (value : String) :
    (Split.ofValue (Pattern.read pattern).separators value.toList).values.length ≤
        (Pattern.read pattern).paths.length ∧
      ∀ r all, ((s.apply value).runOn r).1 ≠ .error (.tooManyValues all) := by
  have hle := hclosed.length_values_le value.toList
  refine ⟨hle, ?_⟩
  intro r all h
  obtain ⟨ts, hts, rfl⟩ := eq_parse_of_compile hleaf hclosed.paths_ne_nil hs
  rw [apply_singleton] at h
  obtain ⟨r', hrun⟩ : ∃ r', ((Action.parse ts (Pattern.read pattern).separators).run value).runOn r =
      (.error (.tooManyValues all), r') := ⟨_, Prod.ext h rfl⟩
  cases Action.runOn_run_eq_error_iff.mp hrun with
  | parse hws hstops =>
    cases hstops with
    | tooMany hn hmore =>
      rw [Action.parts, List.length_map, length_of_mapM_eq_ok hts] at hmore
      exact Nat.not_lt.mpr hle hmore

/-- A forced end before the last token, with a bare one at the end. -/
theorem apply_closed_cache :
    let leaf := "\x7b\x7b parse .redis.host:$.redis.port$  \x7d\x7d"
    let pattern := ".redis.host:$.redis.port$".toList
    Segment.texts leaf.toList = ["parse ".toList ++ pattern] ∧ Pattern.Closed pattern ∧
      ∃ s, compile leaf = .ok s ∧
        (Split.ofValue (Pattern.read pattern).separators "cache:6379:0".toList).values.length ≤
            (Pattern.read pattern).paths.length ∧
          ∀ r all, ((s.apply "cache:6379:0").runOn r).1 ≠ .error (.tooManyValues all) := by
  intro leaf pattern
  have hleaf : Segment.texts leaf.toList = ["parse ".toList ++ pattern] := by decide +kernel
  have hclosed : Pattern.Closed pattern := ⟨by decide, Or.inr (by decide)⟩
  have hs : compile leaf = .ok ⟨0, [.parse
      [⟨".redis.host", .beside (.beside (.beside (.scalar .here)))⟩,
        ⟨".redis.port", .beside (.beside (.beside (.scalar (.there .here))))⟩]
      [⟨[':'], true⟩, ⟨[], true⟩]]⟩ := by decide +kernel
  exact ⟨hleaf, hclosed, _, hs, apply_closed hleaf hclosed hs "cache:6379:0"⟩

end Setter
end ServiceAtlas
