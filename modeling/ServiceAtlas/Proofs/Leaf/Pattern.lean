import ServiceAtlas.Leaf.Pattern
import ServiceAtlas.Text.Blank

/-! The tokens and the separators that a pattern is read as: a token is a dot with path characters
behind it, and a separator without a forced end has a literal. -/
namespace ServiceAtlas

/-- The form that the parts of a pattern have. -/
def Piece.WellFormed : Piece → Prop
  | token path => ∃ rest, path = '.' :: rest ∧ ∀ c ∈ rest, Pattern.isPathChar c = true
  | run text => text ≠ []

namespace Pattern

theorem isBlank_of_isPathChar {c : Char} (h : isPathChar c = true) : Text.isBlank c = false := by
  have hn : (97 ≤ c.toNat ∧ c.toNat ≤ 122) ∨ c.toNat = 95 ∨ c.toNat = 46 := by
    simp only [isPathChar, Bool.or_eq_true, Bool.and_eq_true, decide_eq_true_eq] at h
    rcases h with (h | rfl) | rfl
    · exact Or.inl h
    · exact Or.inr (Or.inl rfl)
    · exact Or.inr (Or.inr rfl)
  have hs : c ≠ ' ' := by
    rintro rfl
    revert hn
    decide
  simp [Text.isBlank, hs]
  omega

/-- The rest of a token that has begun holds path characters only, and all pieces behind are well
formed. -/
theorem wellFormed_continued (inToken : Bool) (text : List Char) :
    (inToken = true → ∀ c ∈ (continued inToken text).1, isPathChar c = true) ∧
      ∀ p ∈ (continued inToken text).2, p.WellFormed := by
  induction text generalizing inToken with
  | nil => cases inToken <;> simp [continued]
  | cons c text ih =>
    obtain ⟨htoken, hpieces⟩ := ih true
    have hrun := (ih false).2
    cases inToken with
    | true =>
      by_cases hc : isPathChar c = true
      · simpa [continued, hc] using ⟨htoken rfl, hpieces⟩
      · simpa [continued, hc, Piece.WellFormed] using hrun
    | false =>
      by_cases hc : c = '.'
      · simpa [continued, hc, Piece.WellFormed] using ⟨htoken rfl, hpieces⟩
      · simpa [continued, hc] using hrun

theorem wellFormed_of_mem_pieces {text : List Char} {p : Piece} (h : p ∈ pieces text) :
    p.WellFormed := by
  have hpieces := (wellFormed_continued false text).2
  unfold pieces at h
  split at h
  · next heq => exact hpieces p (by rw [heq]; exact h)
  · next c rest ps heq =>
    rcases List.mem_cons.mp h with rfl | h
    · exact List.cons_ne_nil c rest
    · exact hpieces p (by rw [heq]; exact h)

theorem isPathChar_of_mem_paths {text path : List Char} (h : path ∈ (read text).paths) :
    path ≠ [] ∧ ∀ c ∈ path, isPathChar c = true := by
  obtain ⟨p, hp, hpath⟩ := List.mem_filterMap.mp h
  cases p with
  | token token =>
    obtain rfl : token = path := Option.some.inj hpath
    obtain ⟨rest, rfl, hrest⟩ := wellFormed_of_mem_pieces hp
    exact ⟨List.cons_ne_nil '.' rest, List.forall_mem_cons.mpr ⟨by decide, hrest⟩⟩
  | run run => cases hpath

theorem literal_ne_nil_of_mem_separators {text : List Char} {s : Separator}
    (h : s ∈ (read text).separators) (hs : s.forcedEnd = false) : s.literal ≠ [] := by
  obtain ⟨p, hp, hsep⟩ := List.mem_filterMap.mp h
  cases p with
  | token token => cases hsep
  | run run =>
    obtain rfl : Separator.ofRun run = s := Option.some.inj hsep
    have hw : (Separator.ofRun run).literal = run := by
      simpa [Separator.written, hs] using Separator.written_ofRun run
    rw [hw]
    exact wellFormed_of_mem_pieces hp

end Pattern
end ServiceAtlas
