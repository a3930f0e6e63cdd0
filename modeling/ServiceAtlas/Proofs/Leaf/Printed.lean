import Mathlib.Tactic.MkIffOfInductiveProp
import ServiceAtlas.Proofs.Leaf.Filling
import ServiceAtlas.Proofs.Text.Digits

/-!
# Printed pipelines

A clause is a segment as it is written in a leaf. Clauses are written with bars between them and
braces around them, and compiling what is written gives back what they mean. Paths have no white
space, so that the first space of a clause tells its form, whatever its literal or its pattern looks
like.
-/
namespace ServiceAtlas

/-- A segment as it is written. The pattern of a parse is in one piece. -/
inductive Clause where
  | weight (n : Int)
  | conditional (expected : Bool) (path literal : List Char)
  | parse (pattern : List Char)
  | preset (path literal : List Char)
  | direct (path : List Char)
deriving DecidableEq, Repr

/-- A path to a field, without white space and bars. -/
@[mk_iff] structure IsPath (path : List Char) : Prop where
  resolves : ∃ t, Setter.resolve path = .ok t
  not_blank : ∀ c ∈ path, Text.isBlank c = false
  not_bar : '|' ∉ path

/-- A text that a clause may end in, without bars and without white space at its end. -/
@[mk_iff] structure IsEnding (text : List Char) : Prop where
  not_bar : '|' ∉ text
  not_blank : ∀ c ∈ text.getLast?, Text.isBlank c = false

@[mk_iff] structure IsLiteral (literal : List Char) : Prop extends IsEnding literal where
  ne_nil : literal ≠ []

/-- A pattern with at least one token, all of which are paths to fields. -/
@[mk_iff] structure IsPattern (pattern : List Char) : Prop extends IsEnding pattern where
  ne_nil : (Pattern.read pattern).paths ≠ []
  resolves : ∀ path ∈ (Pattern.read pattern).paths, ∃ t, Setter.resolve path = .ok t

section
variable (text : List Char)

instance : Decidable (∃ t, Setter.resolve text = .ok t) :=
  decidable_of_iff ((Setter.resolve text).toOption.isSome = true) <| by
    cases Setter.resolve text <;> simp [Except.toOption]

-- The characters asked about are those of the text, and not all that there are.
instance : Decidable (IsPath text) :=
  have : Decidable (∀ c ∈ text, Text.isBlank c = false) := List.decidableBAll _ text
  decidable_of_iff _ (isPath_iff text).symm

instance : Decidable (IsEnding text) :=
  have : Decidable (∀ c ∈ text.getLast?, Text.isBlank c = false) := Option.decidableForallMem _
  decidable_of_iff _ (isEnding_iff text).symm

instance : Decidable (IsLiteral text) := decidable_of_iff _ (isLiteral_iff text).symm

instance : Decidable (IsPattern text) := decidable_of_iff _ (isPattern_iff text).symm

end

namespace Clause

def text : Clause → List Char
  | weight n => "weight ".toList ++ (toString n).toList
  | conditional expected path literal =>
    "if ".toList ++ (Text.boolText expected).toList ++ [' '] ++ path ++ " = ".toList ++ literal
  | parse pattern => "parse ".toList ++ pattern
  | preset path literal => path ++ " = ".toList ++ literal
  | direct path => path

/-- The segment that is written. -/
def segment : Clause → Segment
  | weight n => .weight n
  | conditional expected path literal => .conditional expected path literal
  | parse pattern => .parse (.read pattern)
  | preset path literal => .preset path literal
  | direct path => .direct path

/-- Weights are those of 64 bits. -/
def Printable : Clause → Prop
  | weight n => -(Text.maxInt64 + 1 : Int) ≤ n ∧ n ≤ Text.maxInt64
  | conditional _ path literal => IsPath path ∧ IsLiteral literal
  | parse pattern => IsPattern pattern
  | preset path literal => IsPath path ∧ IsLiteral literal
  | direct path => IsPath path

instance : (c : Clause) → Decidable c.Printable
  | weight n => inferInstanceAs (Decidable (-(Text.maxInt64 + 1 : Int) ≤ n ∧ n ≤ Text.maxInt64))
  | conditional _ path literal => inferInstanceAs (Decidable (IsPath path ∧ IsLiteral literal))
  | parse pattern => inferInstanceAs (Decidable (IsPattern pattern))
  | preset path literal => inferInstanceAs (Decidable (IsPath path ∧ IsLiteral literal))
  | direct path => inferInstanceAs (Decidable (IsPath path))

/-- The clauses as one leaf. -/
def leaf (cs : List Clause) : List Char :=
  Segment.opening ++ Text.joinWith " | ".toList (cs.map text) ++ Segment.closing

end Clause

theorem Text.isBlank_of_isDigit {c : Char} (h : c.isDigit = true) : isBlank c = false := by
  simp only [Char.isDigit, Bool.and_eq_true, decide_eq_true_eq, ge_iff_le,
    UInt32.le_iff_toNat_le] at h
  have hn : 48 ≤ c.toNat ∧ c.toNat ≤ 57 := h
  have hs : c ≠ ' ' := by
    rintro rfl
    revert hn
    decide
  simp [isBlank, hs]
  omega

theorem isLiteral_toString (n : Int) : IsLiteral (toString n).toList where
  not_bar h := by
    rcases Text.eq_minus_or_isDigit_of_mem_toString h with h | h
    · exact absurd h (by decide)
    · exact absurd h (by decide)
  not_blank c hc := by
    rcases Text.eq_minus_or_isDigit_of_mem_toString (List.mem_of_getLast? hc) with rfl | h
    · decide
    · exact Text.isBlank_of_isDigit h
  ne_nil := Text.toList_toString_ne_nil n

theorem IsPattern.isLiteral {pattern : List Char} (h : IsPattern pattern) :
    IsLiteral pattern where
  toIsEnding := h.toIsEnding
  ne_nil := by
    rintro rfl
    exact h.ne_nil rfl

namespace IsPath

variable {path : List Char} (h : IsPath path)
include h

theorem space_notMem : ' ' ∉ path := fun hs => absurd (h.not_blank ' ' hs) (by decide)

theorem ne_of_not_resolves {text : List Char} (ht : (Setter.resolve text).toOption = none) :
    path ≠ text := by
  rintro rfl
  obtain ⟨t, hp⟩ := h.resolves
  rw [hp] at ht
  cases ht

theorem isLiteral : IsLiteral path where
  not_bar := h.not_bar
  not_blank c hc := h.not_blank c (List.mem_of_getLast? hc)
  ne_nil := h.ne_of_not_resolves (by decide +kernel)

/-- A keyword is no path, and the space behind a path is the first one. -/
theorem after?_keyword (keyword : List Char) (hk : (Setter.resolve keyword).toOption = none)
    (hspace : ' ' ∉ keyword) {rest : List Char} (hrest : ∀ c ∈ rest.head?, c = ' ') :
    Text.after? (keyword ++ [' ']) (path ++ rest) = none := by
  rw [Option.eq_none_iff_forall_ne_some]
  intro behind hbehind
  -- Both sides are cut at their first space, and the path would be the keyword.
  have hcut : Text.cut? [' '] (path ++ rest) = some (keyword, behind) := by
    rw [Text.after?_eq_some_iff.mp hbehind]
    exact Text.cut?_append_of_notMem hspace [] behind
  cases rest with
  | nil =>
    rw [List.append_nil, Text.cut?_eq_none_of_notMem h.space_notMem] at hcut
    cases hcut
  | cons c rest =>
    obtain rfl : c = ' ' := hrest c rfl
    rw [List.append_cons, Text.cut?_append_of_notMem h.space_notMem] at hcut
    obtain ⟨rfl, -⟩ : path = keyword ∧ rest = behind := by simpa using hcut
    exact h.ne_of_not_resolves hk rfl

/-- What begins with a path has none of the forms that begin with a keyword. -/
theorem after?_keywords {rest : List Char} (hrest : ∀ c ∈ rest.head?, c = ' ') :
    Text.after? "weight ".toList (path ++ rest) = none ∧
      Text.after? "if ".toList (path ++ rest) = none ∧
        Text.after? "parse ".toList (path ++ rest) = none :=
  ⟨h.after?_keyword "weight".toList (by decide +kernel) (by decide) hrest,
    h.after?_keyword "if".toList (by decide +kernel) (by decide) hrest,
    h.after?_keyword "parse".toList (by decide +kernel) (by decide) hrest⟩

theorem cut?_assignment (literal : List Char) :
    Text.cut? " = ".toList (path ++ " = ".toList ++ literal) = some (path, literal) :=
  Text.cut?_append_of_notMem h.space_notMem _ literal

theorem read_preset (literal : List Char) :
    Segment.read (path ++ " = ".toList ++ literal) = .ok (.preset path literal) := by
  have hrest : ∀ c ∈ (" = ".toList ++ literal).head?, c = ' ' := fun c hc =>
    (Option.some.inj hc).symm
  obtain ⟨hweight, hif, hparse⟩ := h.after?_keywords hrest
  rw [← List.append_assoc] at hweight hif hparse
  simp only [Segment.read, hweight, hif, hparse, h.cut?_assignment]

theorem read_direct : Segment.read path = .ok (.direct path) := by
  have hrest : ∀ c ∈ ([] : List Char).head?, c = ' ' := nofun
  obtain ⟨hweight, hif, hparse⟩ := h.after?_keywords hrest
  rw [List.append_nil] at hweight hif hparse
  have hcut : Text.cut? " = ".toList path = none := Text.cut?_eq_none_of_notMem h.space_notMem _
  simp only [Segment.read, hweight, hif, hparse, hcut]

end IsPath

theorem Segment.read_weight {n : Int} (hlow : -(Text.maxInt64 + 1 : Int) ≤ n)
    (hhigh : n ≤ Text.maxInt64) :
    read ("weight ".toList ++ (toString n).toList) = .ok (.weight n) := by
  simp only [read, Text.after?_append, readWeight, Text.readInt64_toString hlow hhigh]

theorem Segment.read_conditional {path : List Char} (h : IsPath path) (expected : Bool)
    (literal : List Char) :
    read ("if ".toList ++ (Text.boolText expected).toList ++ [' '] ++ path ++ " = ".toList ++
      literal) = .ok (.conditional expected path literal) := by
  have hspace : ' ' ∉ (Text.boolText expected).toList := by cases expected <;> decide
  have hcondition := Text.cut?_append_of_notMem hspace [] (path ++ " = ".toList ++ literal)
  have hassignment := h.cut?_assignment literal
  simp only [List.append_assoc] at hcondition hassignment ⊢
  have hweight : Text.after? "weight ".toList ("if ".toList ++
      ((Text.boolText expected).toList ++ ([' '] ++ (path ++ (" = ".toList ++ literal))))) = none :=
    Text.after?_eq_none_of_ne (by decide) _ _
  simp only [read, hweight, Text.after?_append, readConditional, hcondition, hassignment,
    String.ofList_toList, Text.readBool_boolText]

/-- A text that ends in a literal is one piece between bars, with no white space to trim. -/
theorem IsLiteral.append {head tail : List Char} (hbar : '|' ∉ head)
    (hhead : ∃ c ∈ head.head?, Text.isBlank c = false) (h : IsLiteral tail) :
    '|' ∉ head ++ tail ∧ Text.trim (head ++ tail) = head ++ tail := by
  obtain ⟨c, hc, hblank⟩ := hhead
  refine ⟨List.not_mem_append hbar h.not_bar, Text.trim_eq_self ?_ ?_⟩
  · intro d hd
    rw [List.head?_append, Option.mem_def.mp hc] at hd
    exact Option.some.inj hd ▸ hblank
  · rw [List.getLast?_append_of_ne_nil _ h.ne_nil]
    exact h.not_blank

namespace Clause

variable {c : Clause} (h : c.Printable)
include h

/-- A clause is read as the segment that it writes. -/
theorem read_text : Segment.read c.text = .ok c.segment := by
  cases c with
  | weight n => exact Segment.read_weight h.1 h.2
  | conditional expected path literal => exact Segment.read_conditional h.1 expected literal
  | parse pattern => exact Segment.read_parse h.ne_nil
  | preset path literal => exact h.1.read_preset literal
  | direct path => exact IsPath.read_direct h

theorem trim_text : '|' ∉ c.text ∧ Text.trim c.text = c.text := by
  cases c with
  | weight n =>
    exact (isLiteral_toString n).append (by decide) ⟨'w', rfl, by decide⟩
  | conditional expected path literal =>
    have hcondition : '|' ∉ "if ".toList ++ (Text.boolText expected).toList ++ [' '] := by
      cases expected <;> decide
    have hassignment := List.not_mem_append (List.not_mem_append hcondition h.1.not_bar)
      (show '|' ∉ " = ".toList by decide)
    exact h.2.append hassignment ⟨'i', rfl, by decide⟩
  | parse pattern =>
    exact (IsPattern.isLiteral h).append (by decide) ⟨'p', rfl, by decide⟩
  | preset path literal =>
    obtain ⟨hpath, hliteral⟩ := h
    obtain ⟨first, rest, rfl⟩ := List.exists_cons_of_ne_nil hpath.isLiteral.ne_nil
    exact hliteral.append (List.not_mem_append hpath.not_bar (by decide))
      ⟨first, rfl, hpath.not_blank first List.mem_cons_self⟩
  | direct path =>
    have hpath : IsPath path := h
    exact ⟨hpath.not_bar, Text.trim_eq_self (fun c hc => hpath.not_blank c (List.mem_of_head? hc))
      fun c hc => hpath.not_blank c (List.mem_of_getLast? hc)⟩

theorem resolves {path : List Char} (hp : path ∈ c.segment.paths) :
    ∃ t, Setter.resolve path = .ok t := by
  cases c with
  | weight n => exact absurd hp List.not_mem_nil
  | conditional expected path' literal => exact List.mem_singleton.mp hp ▸ h.1.resolves
  | parse pattern => exact IsPattern.resolves h path hp
  | preset path' literal => exact List.mem_singleton.mp hp ▸ h.1.resolves
  | direct path' => exact List.mem_singleton.mp hp ▸ IsPath.resolves h

end Clause

/-- The pieces of a leaf in braces are the texts between its bars. -/
theorem Segment.texts_joinWith {texts : List (List Char)} (hne : texts ≠ [])
    (h : ∀ text ∈ texts, '|' ∉ text) :
    Segment.texts (opening ++ Text.joinWith " | ".toList texts ++ closing) =
      texts.map Text.trim := by
  have hopening := Text.after?_append opening (Text.joinWith " | ".toList texts ++ closing)
  have hclosing : Text.before? closing (Text.joinWith " | ".toList texts ++ closing) = _ :=
    Text.before?_eq_some_iff.mpr rfl
  have hspace : '|' ∉ [' '] := by decide
  have hsplit : Text.splitOn " | ".toList (Text.joinWith " | ".toList texts) = texts :=
    Text.splitOn_joinWith hspace hspace hne h
  rw [Segment.texts, List.append_assoc, hopening, Option.getD_some, hclosing, Option.getD_some,
    hsplit]

theorem Clause.readAll_leaf {cs : List Clause} (hne : cs ≠ []) (h : ∀ c ∈ cs, c.Printable) :
    Segment.readAll (String.ofList (leaf cs)) = .ok (cs.map segment) := by
  have htexts : Segment.texts (leaf cs) = cs.map text := by
    have hbar : ∀ text ∈ cs.map Clause.text, '|' ∉ text :=
      List.forall_mem_map.mpr fun c hc => (trim_text (h c hc)).1
    rw [leaf, Segment.texts_joinWith (by simpa using hne) hbar, List.map_map]
    exact List.map_congr_left fun c hc => (trim_text (h c hc)).2
  rw [Segment.readAll, String.toList_ofList, htexts]
  exact mapM_map_eq_ok fun c hc => read_text (h c hc)

/-- Clauses that are written as one leaf compile to what they mean. -/
theorem Clause.compile_leaf {cs : List Clause} (hne : cs ≠ []) (h : ∀ c ∈ cs, c.Printable) :
    let segments := cs.map segment
    ∃ s, Setter.compile (String.ofList (leaf cs)) = .ok s ∧
      s.weight = (segments.filterMap Segment.weight?).getLastD 0 ∧
        s.actions.length = segments.countP (·.weight?.isNone) ∧
          ∀ value r, (s.apply value).runOn r = (segments.forM (Segment.run value)).runOn r := by
  intro segments
  have hresolve : ∀ seg ∈ segments, ∀ path ∈ seg.paths, ∃ t, Setter.resolve path = .ok t := by
    intro seg hseg path hpath
    obtain ⟨c, hc, rfl⟩ := List.mem_map.mp hseg
    exact resolves (h c hc) hpath
  obtain ⟨s, hs, hweight, hlength, hrun⟩ :=
    Setter.exists_compile_of_readAll (readAll_leaf hne h) hresolve
  refine ⟨s, hs, hweight, hlength, ?_⟩
  intro value r
  rw [hrun]

/-- Literals that look like other clauses and like the end of the leaf, and a path that begins like
a weight. -/
theorem Clause.compile_leaf_lookalikes :
    let cs : List Clause :=
      [.weight 7, .conditional true "weight.kafka.name".toList "= \x7d\x7d if weight 3".toList,
        .parse "parse.redis.host:.redis.port/$".toList, .weight (-9223372036854775808),
        .preset ".kafka.host".toList " if true all.kafka.name = \x7d\x7d".toList,
        .direct "if.postgresql.host".toList]
    let written := "\x7b\x7b weight 7 | if true weight.kafka.name = = \x7d\x7d if weight 3" ++
      " | parse parse.redis.host:.redis.port/$ | weight -9223372036854775808" ++
      " | .kafka.host =  if true all.kafka.name = \x7d\x7d | if.postgresql.host \x7d\x7d"
    (cs ≠ [] ∧ ∀ c ∈ cs, c.Printable) ∧
      ∃ s, Setter.compile written = .ok s ∧ s.weight = -9223372036854775808 ∧
        s.actions.length = 4 ∧ ∀ value r, (s.apply value).runOn r =
          ((cs.map segment).forM (Segment.run value)).runOn r := by
  intro cs written
  have hne : cs ≠ [] := List.cons_ne_nil _ _
  have h : ∀ c ∈ cs, c.Printable := by decide +kernel
  have hleaf : String.ofList (leaf cs) = written := by decide +kernel
  obtain ⟨s, hs, hweight, hlength, hrun⟩ := compile_leaf hne h
  exact ⟨⟨hne, h⟩, s, hleaf ▸ hs, hweight, hlength, hrun⟩

end ServiceAtlas
