import ServiceAtlas.Leaf.Pattern
import ServiceAtlas.Proofs.Text.Cut

/-!
# Where a value is cut

A value is cut at the first of its separators, the text behind that at the next, and so on up to a
forced end, to a separator that takes the rest whole, or to one that does not occur. The parts, the
separators behind them and the text that is left make up the value again.
-/
namespace ServiceAtlas

namespace Split

theorem kept_of_ne_nil {part : List Char} (h : part ≠ []) : kept part = [part] := by
  simp [kept, h]

theorem ofValue_cons_of_cut? {s : Separator} {value before after : List Char} (hne : s.literal ≠ [])
    (hcut : Text.cut? s.literal value = some (before, after)) (ss : List Separator) :
    ofValue (s :: ss) value =
      if s.forcedEnd then ⟨kept before, none⟩
      else ⟨kept before ++ (ofValue ss after).values, (ofValue ss after).missing⟩ := by
  rw [ofValue, if_neg (by simpa using hne), hcut]

/-- A value as far as it is cut: parts with the separators behind them, the separators that are left,
and the text that is. Each part ends where its separator is first met, and only the last of these
separators may be a forced end. -/
structure CutInto (separators : List Separator) (value : List Char)
    (cuts : List (List Char × Separator)) (left : List Separator) (rest : List Char) : Prop where
  separators_eq : separators = cuts.map Prod.snd ++ left
  value_eq : value = (cuts.flatMap fun cut => cut.1 ++ cut.2.literal) ++ rest
  literal_ne_nil : ∀ cut ∈ cuts, cut.2.literal ≠ []
  onlyAtEnd : ∀ cut ∈ cuts, Text.OnlyAtEnd cut.2.literal cut.1
  notForced : ∀ cut ∈ cuts.dropLast, cut.2.forcedEnd = false

/-- Whether the last cut is at a forced end. -/
def endsForced (cuts : List (List Char × Separator)) : Bool :=
  cuts.getLast?.any fun cut => cut.2.forcedEnd

/-- The parts and, unless a forced end drops it, the text behind them. -/
def partsWith (cuts : List (List Char × Separator)) (rest : List Char) : List (List Char) :=
  cuts.map Prod.fst ++ if endsForced cuts then [] else [rest]

/-- Why a value is cut no further, and the separator that is missing then. -/
inductive Stops (cuts : List (List Char × Separator)) (left : List Separator) (rest : List Char) :
    Option (List Char) → Prop
  | forced (h : endsForced cuts = true) : Stops cuts left rest none
  | exhausted (h : endsForced cuts = false) (hl : left = []) : Stops cuts left rest none
  | whole {s : Separator} (h : endsForced cuts = false) (hl : left.head? = some s)
    (hs : s.literal = []) : Stops cuts left rest none
  | missing {s : Separator} (h : endsForced cuts = false) (hl : left.head? = some s)
    (hs : s.literal ≠ []) (hrest : ¬ s.literal <:+: rest) : Stops cuts left rest (some s.literal)

section Step

variable {separators left : List Separator} {value before after rest : List Char}
  {cuts : List (List Char × Separator)} {s : Separator}

theorem cutInto_nil (separators : List Separator) (value : List Char) :
    CutInto separators value [] separators value :=
  ⟨rfl, rfl, by simp, by simp, by simp⟩

/-- One more cut in front of the others. -/
theorem CutInto.cons (h : CutInto separators after cuts left rest)
    (hcut : Text.cut? s.literal value = some (before, after)) (hne : s.literal ≠ [])
    (hs : cuts ≠ [] → s.forcedEnd = false) :
    CutInto (s :: separators) value ((before, s) :: cuts) left rest where
  separators_eq := by rw [h.separators_eq]; rfl
  value_eq := by rw [Text.eq_of_cut? hcut, h.value_eq]; simp
  literal_ne_nil := List.forall_mem_cons.mpr ⟨hne, h.literal_ne_nil⟩
  onlyAtEnd := List.forall_mem_cons.mpr ⟨Text.onlyAtEnd_of_cut? hcut, h.onlyAtEnd⟩
  notForced := by
    cases cuts with
    | nil => simp
    | cons cut cuts => exact List.forall_mem_cons.mpr ⟨hs (List.cons_ne_nil cut cuts), h.notForced⟩

theorem endsForced_cons (hs : s.forcedEnd = false) :
    endsForced ((before, s) :: cuts) = endsForced cuts := by
  cases cuts with
  | nil => simp [endsForced, hs]
  | cons cut cuts => simp [endsForced]

theorem Stops.cons {missing : Option (List Char)} (h : Stops cuts left rest missing)
    (hs : s.forcedEnd = false) : Stops ((before, s) :: cuts) left rest missing := by
  have hends : endsForced ((before, s) :: cuts) = endsForced cuts := endsForced_cons hs
  cases h with
  | forced h => exact .forced (hends.trans h)
  | exhausted h hl => exact .exhausted (hends.trans h) hl
  | whole h hl hne => exact .whole (hends.trans h) hl hne
  | missing h hl hne hrest => exact .missing (hends.trans h) hl hne hrest

theorem kept_eq_filter (part : List Char) : kept part = [part].filter (!·.isEmpty) := by
  cases part <;> rfl

end Step

-- The induction is on the separators; each cut leaves a shorter value for those behind it.
theorem exists_cutInto (separators : List Separator) (value : List Char) :
    ∃ cuts left rest, CutInto separators value cuts left rest ∧
      (ofValue separators value).values = (partsWith cuts rest).filter (!·.isEmpty) ∧
      Stops cuts left rest (ofValue separators value).missing := by
  induction separators generalizing value with
  | nil => exact ⟨[], [], value, cutInto_nil [] value, kept_eq_filter value, .exhausted rfl rfl⟩
  | cons s separators ih =>
    have huncut := cutInto_nil (s :: separators) value
    by_cases hne : s.literal = []
    · have hvalue : ofValue (s :: separators) value = ⟨kept value, none⟩ := by simp [ofValue, hne]
      rw [hvalue]
      exact ⟨[], s :: separators, value, huncut, kept_eq_filter value, .whole rfl rfl hne⟩
    · cases hcut : Text.cut? s.literal value with
      | none =>
        have hvalue : ofValue (s :: separators) value = ⟨kept value, some s.literal⟩ := by
          simp [ofValue, hne, hcut]
        rw [hvalue]
        exact ⟨[], s :: separators, value, huncut, kept_eq_filter value,
          .missing rfl rfl hne (Text.not_infix_of_cut? hcut)⟩
      | some halves =>
        obtain ⟨before, after⟩ := halves
        rw [ofValue_cons_of_cut? hne hcut]
        cases hs : s.forcedEnd with
        | true =>
          have hends : endsForced [(before, s)] = true := by simp [endsForced, hs]
          rw [if_pos rfl]
          refine ⟨[(before, s)], separators, after, ?_, ?_, .forced hends⟩
          · exact (cutInto_nil separators after).cons hcut hne fun h => absurd rfl h
          · rw [partsWith, if_pos hends]
            exact kept_eq_filter before
        | false =>
          obtain ⟨cuts, left, rest, hinto, hvalues, hstops⟩ := ih after
          rw [if_neg Bool.false_ne_true]
          refine ⟨(before, s) :: cuts, left, rest, hinto.cons hcut hne fun _ => hs, ?_,
            hstops.cons hs⟩
          rw [hvalues, kept_eq_filter, ← List.filter_append, partsWith, partsWith,
            endsForced_cons hs]
          rfl

section Stops

variable {cuts : List (List Char × Separator)} {left : List Separator} {rest : List Char}
  {missing : Option (List Char)}

theorem Stops.missing_eq_some_iff (h : Stops cuts left rest missing) {literal : List Char} :
    missing = some literal ↔ endsForced cuts = false ∧
      ∃ s, left.head? = some s ∧ s.literal = literal ∧ literal ≠ [] ∧ ¬ literal <:+: rest := by
  cases h with
  | forced h => simp [h]
  | exhausted h hl => simp [hl]
  | @whole s h hl hs =>
    constructor
    · intro hnone
      cases hnone
    · rintro ⟨-, t, ht, rfl, hne, -⟩
      obtain rfl := Option.some.inj (hl.symm.trans ht)
      exact absurd hs hne
  | @missing s h hl hs hrest =>
    constructor
    · intro hsome
      obtain rfl := Option.some.inj hsome
      exact ⟨h, s, hl, rfl, hs, hrest⟩
    · rintro ⟨-, t, ht, rfl, -, -⟩
      rw [Option.some.inj (hl.symm.trans ht)]

theorem Stops.missing_eq_none_iff (h : Stops cuts left rest missing) :
    missing = none ↔
      endsForced cuts = true ∨ left = [] ∨ ∃ s, left.head? = some s ∧ s.literal = [] := by
  cases h with
  | forced h => simp [h]
  | exhausted h hl => simp [hl]
  | whole h hl hs => simp [hl, hs]
  | missing h hl hs hrest =>
    have hne : left ≠ [] := by
      rintro rfl
      cases hl
    simp [h, hl, hs, hne]

end Stops

/-- A value is cut into parts that end at the first of its separators each, and the text behind them.
The parts that are not empty are its values, and with them the text behind, unless a forced end drops
it. A separator is missing just if it is the next, has a literal and does not occur any more; and none
is missing just if cutting ends at a forced end, behind all separators, or at one without a
literal. -/
theorem ofValue_accounts (separators : List Separator) (value : List Char) :
    ∃ cuts left rest, CutInto separators value cuts left rest ∧
      (ofValue separators value).values = (partsWith cuts rest).filter (!·.isEmpty) ∧
      (∀ literal, (ofValue separators value).missing = some literal ↔ endsForced cuts = false ∧
        ∃ s, left.head? = some s ∧ s.literal = literal ∧ literal ≠ [] ∧ ¬ literal <:+: rest) ∧
      ((ofValue separators value).missing = none ↔
        endsForced cuts = true ∨ left = [] ∨ ∃ s, left.head? = some s ∧ s.literal = []) := by
  obtain ⟨cuts, left, rest, hinto, hvalues, hstops⟩ := exists_cutInto separators value
  exact ⟨cuts, left, rest, hinto, hvalues, fun _ => hstops.missing_eq_some_iff,
    hstops.missing_eq_none_iff⟩

section Length

theorem length_partsWith_le (cuts : List (List Char × Separator)) (rest : List Char) :
    ((partsWith cuts rest).filter (!·.isEmpty)).length ≤
      cuts.length + if endsForced cuts then 0 else 1 := by
  refine Nat.le_trans (List.length_filter_le _ _) (Nat.le_of_eq ?_)
  rw [partsWith, List.length_append, List.length_map]
  split <;> rfl

variable (separators : List Separator) (value : List Char)

/-- A value has at most one part more than there are separators. -/
theorem length_values_le : (ofValue separators value).values.length ≤ separators.length + 1 := by
  obtain ⟨cuts, left, rest, hinto, hvalues, -⟩ := exists_cutInto separators value
  have hle := length_partsWith_le cuts rest
  have hlength := congrArg List.length hinto.separators_eq
  rw [List.length_append, List.length_map] at hlength
  rw [hvalues]
  split at hle <;> omega

/-- Nothing is behind a forced end at the end. -/
theorem length_values_le_of_forced {s : Separator} (hs : separators.getLast? = some s)
    (hforced : s.forcedEnd = true) :
    (ofValue separators value).values.length ≤ separators.length := by
  obtain ⟨cuts, left, rest, hinto, hvalues, -⟩ := exists_cutInto separators value
  have hle := length_partsWith_le cuts rest
  have hlength := congrArg List.length hinto.separators_eq
  rw [List.length_append, List.length_map] at hlength
  rw [hvalues]
  cases hends : endsForced cuts with
  | true =>
    rw [hends, if_pos rfl] at hle
    omega
  | false =>
    -- Cutting stops before the last separator, so that one more part is not too many.
    have hleft : left ≠ [] := by
      rintro rfl
      rw [hinto.separators_eq, List.append_nil, List.getLast?_map, Option.map_eq_some_iff] at hs
      obtain ⟨cut, hcut, rfl⟩ := hs
      simp [endsForced, hcut, hforced] at hends
    have hpos := List.length_pos_of_ne_nil hleft
    rw [hends, if_neg Bool.false_ne_true] at hle
    omega

end Length

end Split
end ServiceAtlas
