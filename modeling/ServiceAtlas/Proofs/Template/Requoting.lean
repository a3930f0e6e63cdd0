import ServiceAtlas.Proofs.Template.BareLines
import ServiceAtlas.Template.Basic

/-!
# Quoting once and twice

A line that is quoted has no bare leaf and no bare wildcard left, so that nothing of a quoted text is
quoted again. Texts that are joined by a line break are quoted each on its own.
-/
namespace ServiceAtlas

namespace Quoting

section Front

variable {front rest before leaf trail : List Char} {c : Char}

/-- A bare leaf begins at the first brace. -/
theorem BareLeaf.before_eq (h : BareLeaf (front ++ '\x7b' :: rest) before leaf trail)
    (hf : '\x7b' ∉ front) : before = front := by
  obtain ⟨behind, hbehind⟩ := h.exists_eq_cons
  have hline : before ++ '\x7b' :: behind = front ++ '\x7b' :: rest := by
    rw [← hbehind, ← List.append_assoc, ← h.line_eq]
  exact (Text.append_cons_inj_of_forall (not_isBrace_of_notMem h.brace_notMem) (by decide)
    (not_isBrace_of_notMem hf) (by decide) hline).1

/-- A bare leaf stays one when the front of its line changes in characters that are no braces. -/
theorem BareLeaf.change_front {front' : List Char}
    (h : BareLeaf (front ++ c :: rest) before leaf trail) (hf : '\x7b' ∉ front) (hc : c ≠ '\x7b')
    (hf' : '\x7b' ∉ front') : ∃ before, BareLeaf (front' ++ c :: rest) before leaf trail := by
  obtain ⟨behind, hbehind⟩ := h.exists_eq_cons
  have hline : front ++ c :: rest = before ++ '\x7b' :: behind := by
    rw [h.line_eq, List.append_assoc, hbehind]
  rcases List.append_eq_append_iff.mp hline with ⟨middle, hbefore, hrest⟩ | ⟨middle, hfront, hrest⟩
  · cases middle with
    | nil => exact absurd (List.cons.inj hrest).1 hc
    | cons d middle =>
      obtain ⟨rfl, hrest⟩ := List.cons.inj hrest
      have hbrace := h.brace_notMem
      have hquote := h.not_quoted
      rw [hbefore] at hbrace hquote
      refine ⟨front' ++ c :: middle, ?_, ?_, h.braces, h.blank, ?_⟩
      · rw [hrest, ← hbehind]
        simp
      · exact List.not_mem_append hf' fun hmem => hbrace (List.mem_append_right front hmem)
      · rw [List.getLast?_append_of_ne_nil _ (List.cons_ne_nil c middle)] at hquote ⊢
        exact hquote
  · cases middle with
    | nil => exact absurd (List.cons.inj hrest).1.symm hc
    | cons d middle =>
      obtain ⟨rfl, -⟩ := List.cons.inj hrest
      exact absurd (hfront ▸ List.mem_append_right before List.mem_cons_self) hf

end Front

/-- A quote stands in front of the leaf once it is quoted. -/
theorem not_bareLeaf_quoteLeaf (line : List Char) :
    ∀ before leaf trail, ¬ BareLeaf (quoteLeaf line) before leaf trail := by
  rcases exists_bareLeaf_or line with ⟨before, leaf, trail, hbare⟩ | hl
  · obtain ⟨inner, hinner⟩ := hbare.braces
    intro before' leaf' trail' h
    have hline : quoteLeaf line = (before ++ ['\'']) ++
        '\x7b' :: (doubled ('\x7b' :: inner ++ ['\x7d', '\x7d']) ++ ['\''] ++ trail) := by
      rw [hbare.quoteLeaf_eq, hinner]
      simp [singleQuoted, doubled]
    rw [hline] at h
    have hfront : '\x7b' ∉ before ++ ['\''] := List.not_mem_append hbare.brace_notMem (by decide)
    have hquote := h.not_quoted '\'' (by rw [h.before_eq hfront, List.getLast?_concat]; rfl)
    revert hquote
    decide
  · rw [quoteLeaf_eq_self hl]
    exact hl

theorem not_bareLeaf_quoteWildcard {line : List Char}
    (h : ∀ before leaf trail, ¬ BareLeaf line before leaf trail) :
    ∀ before leaf trail, ¬ BareLeaf (quoteWildcard line) before leaf trail := by
  rcases exists_bareWildcard_or line with ⟨margin, rest, hwild⟩ | hw
  · have hmargin : '\x7b' ∉ margin := by
      intro hmem
      have hchar := hwild.isMargin.isMarginChar _ hmem
      revert hchar
      decide
    have hquoted : quoteWildcard line = (margin ++ ['"', '*', '"']) ++ ':' :: rest := by
      rw [hwild.quoteWildcard_eq]
      simp
    have hline : line = (margin ++ ['*']) ++ ':' :: rest := by
      rw [hwild.line_eq]
      simp
    intro before leaf trail hbare
    rw [hquoted] at hbare
    obtain ⟨before', hbare'⟩ := hbare.change_front (List.not_mem_append hmargin (by decide))
      (by decide) (List.not_mem_append hmargin (by decide) : '\x7b' ∉ margin ++ ['*'])
    exact h _ _ _ (hline ▸ hbare')
  · rw [quoteWildcard_eq_self hw]
    exact h

/-- A quote stands in front of the wildcard once it is quoted. -/
theorem not_bareWildcard_quoteWildcard (line : List Char) :
    ∀ margin rest, ¬ BareWildcard (quoteWildcard line) margin rest := by
  rcases exists_bareWildcard_or line with ⟨margin, rest, hwild⟩ | hw
  · intro margin' rest' h
    have hline := h.line_eq
    rw [hwild.quoteWildcard_eq, List.append_assoc] at hline
    have hinj := Text.append_cons_inj_of_forall hwild.isMargin.isMarginChar (by decide)
      h.isMargin.isMarginChar (by decide) hline
    exact absurd hinj.2.1 (by decide)
  · rw [quoteWildcard_eq_self hw]
    exact hw

theorem quoteLine_quoteLine (line : List Char) : quoteLine (quoteLine line) = quoteLine line :=
  quoteLine_eq_self (not_bareLeaf_quoteWildcard (not_bareLeaf_quoteLeaf line))
    (not_bareWildcard_quoteWildcard (quoteLeaf line))

theorem quote_quoted (text : String) : quote (quote text) = quote text := by
  rw [← lines_inj, lines_quote, lines_quote, List.map_map]
  refine List.map_congr_left ?_
  intro line _
  rw [Function.comp_apply, quoteLine_quoteLine]

end Quoting

/-- Quoting twice is quoting once, for the text and for the template that it is read as, and two
texts with a line break between them are quoted each on its own. -/
theorem Template.quote_idempotent_linewise :
    (∀ text, Quoting.quote (Quoting.quote text) = Quoting.quote text ∧
      ofText (Quoting.quote text) = ofText text) ∧
      ∀ text other, Quoting.quote (text ++ "\n" ++ other) =
        Quoting.quote text ++ "\n" ++ Quoting.quote other := by
  constructor
  · intro text
    refine ⟨Quoting.quote_quoted text, ?_⟩
    simp only [ofText, Quoting.quote_quoted]
  · intro text other
    rw [← Quoting.lines_inj]
    simp only [Quoting.lines_quote, Quoting.lines_append, List.map_append]

end ServiceAtlas
