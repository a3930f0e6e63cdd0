import Mathlib.Data.List.Forall2
import Mathlib.Data.List.TakeWhile
import ServiceAtlas.Proofs.Text.Pieces
import ServiceAtlas.Template.Quoting

/-!
# Bare leaves and bare wildcards

A line may end in a leaf without quotes and may begin with a wildcard key without quotes. Quoting
changes these two and nothing else: the leaf becomes a scalar that is read as the leaf again, and the
wildcard is put between double quotes. A text is quoted as its lines are.
-/
namespace ServiceAtlas.Quoting

/-- A leaf without a quote in front of it. It begins at the first brace of its line, and nothing but
blanks is behind it. -/
structure BareLeaf (line before leaf trail : List Char) : Prop where
  line_eq : line = before ++ leaf ++ trail
  brace_notMem : '\x7b' ∉ before
  braces : ∃ inner, leaf = ['\x7b', '\x7b'] ++ inner ++ ['\x7d', '\x7d']
  blank : ∀ c ∈ trail, isBlank c = true
  not_quoted : ∀ c ∈ before.getLast?, isQuote c = false

/-- What may stand in front of a wildcard key: blanks, or blanks around the mark of an item. -/
inductive IsMargin : List Char → Prop
  | blanks {indent : List Char} (hi : ∀ c ∈ indent, isBlank c = true) : IsMargin indent
  | item {indent gap : List Char} (hi : ∀ c ∈ indent, isBlank c = true)
    (hg : ∀ c ∈ gap, isBlank c = true) (hne : gap ≠ []) : IsMargin (indent ++ '-' :: gap)

/-- A wildcard key without quotes at the head of its line. -/
structure BareWildcard (line margin rest : List Char) : Prop where
  line_eq : line = margin ++ '*' :: ':' :: rest
  isMargin : IsMargin margin

/-- A text in which every quote is doubled, with one quote for each two. -/
def undouble? : List Char → Option (List Char)
  | [] => some []
  | '\'' :: '\'' :: text => (undouble? text).map ('\'' :: ·)
  | c :: text => if c = '\'' then none else (undouble? text).map (c :: ·)

/-- What a single-quoted scalar says. -/
def unquote? : List Char → Option (List Char)
  | '\'' :: text => (Text.before? ['\''] text).bind undouble?
  | _ => none

/-- A line and what quoting makes of it. -/
inductive LineQuoted : List Char → List Char → Prop
  | unchanged {line : List Char} (hl : ∀ before leaf trail, ¬ BareLeaf line before leaf trail)
    (hw : ∀ margin rest, ¬ BareWildcard line margin rest) : LineQuoted line line
  | leaf {line before leaf trail scalar : List Char} (hl : BareLeaf line before leaf trail)
    (hw : ∀ margin rest, ¬ BareWildcard line margin rest) (hs : unquote? scalar = some leaf) :
    LineQuoted line (before ++ scalar ++ trail)
  | wildcard {line margin rest : List Char}
    (hl : ∀ before leaf trail, ¬ BareLeaf line before leaf trail)
    (hw : BareWildcard line margin rest) :
    LineQuoted line (margin ++ ['"', '*', '"', ':'] ++ rest)
  | both {line margin middle leaf trail scalar : List Char}
    (hl : BareLeaf line (margin ++ ['*', ':'] ++ middle) leaf trail)
    (hw : BareWildcard line margin (middle ++ leaf ++ trail)) (hs : unquote? scalar = some leaf) :
    LineQuoted line (margin ++ ['"', '*', '"', ':'] ++ middle ++ scalar ++ trail)

theorem exists_bareLeaf_or (line : List Char) :
    (∃ before leaf trail, BareLeaf line before leaf trail) ∨
      ∀ before leaf trail, ¬ BareLeaf line before leaf trail := by
  simpa only [not_exists] using em (∃ before leaf trail, BareLeaf line before leaf trail)

theorem exists_bareWildcard_or (line : List Char) :
    (∃ margin rest, BareWildcard line margin rest) ∨
      ∀ margin rest, ¬ BareWildcard line margin rest := by
  simpa only [not_exists] using em (∃ margin rest, BareWildcard line margin rest)

/-- A text with every quote written twice. -/
def doubled (text : List Char) : List Char :=
  text.flatMap fun c => if c = '\'' then ['\'', '\''] else [c]

theorem undouble?_doubled (text : List Char) : undouble? (doubled text) = some text := by
  induction text with
  | nil => rfl
  | cons c text ih =>
    rw [doubled, List.flatMap_cons, ← doubled]
    by_cases hc : c = '\''
    · subst hc
      rw [if_pos rfl]
      simp [undouble?, ih]
    · rw [if_neg hc]
      simp [undouble?, hc, ih]

theorem eq_doubled_of_undouble? {text said : List Char} (h : undouble? text = some said) :
    text = doubled said := by
  fun_induction undouble? text generalizing said with
  | case1 =>
    obtain rfl := Option.some.inj h
    rfl
  | case2 text ih =>
    obtain ⟨said, hsaid, rfl⟩ := Option.map_eq_some_iff.mp h
    rw [ih hsaid]
    rfl
  | case3 text hnot => cases h
  | case4 c text hnot hc ih =>
    obtain ⟨said, hsaid, rfl⟩ := Option.map_eq_some_iff.mp h
    rw [ih hsaid, doubled, doubled, List.flatMap_cons, if_neg hc]
    rfl

/-- Each text is said by one scalar. -/
theorem unquote?_eq_some_iff {scalar text : List Char} :
    unquote? scalar = some text ↔ scalar = singleQuoted text := by
  constructor
  · intro h
    unfold unquote? at h
    split at h
    · next inside =>
      obtain ⟨said, hsaid, hundouble⟩ := Option.bind_eq_some_iff.mp h
      rw [Text.before?_eq_some_iff.mp hsaid, eq_doubled_of_undouble? hundouble]
      rfl
    · cases h
  · rintro rfl
    have hinside : Text.before? ['\''] (doubled text ++ ['\'']) = some (doubled text) :=
      Text.before?_eq_some_iff.mpr rfl
    change (Text.before? ['\''] (doubled text ++ ['\''])).bind undouble? = some text
    rw [hinside, Option.bind_some, undouble?_doubled]

section Leaf

theorem isLeaf_iff {text : List Char} :
    isLeaf text = true ↔ ∃ inner, text = ['\x7b', '\x7b'] ++ inner ++ ['\x7d', '\x7d'] := by
  rw [isLeaf, Bool.and_eq_true, List.isPrefixOf_iff_prefix, List.isSuffixOf_iff_suffix]
  constructor
  · rintro ⟨⟨behind, hbehind⟩, front, hfront⟩
    -- The closing braces begin behind the opening ones, which are other characters.
    rcases front with _ | ⟨c, _ | ⟨d, inner⟩⟩
    · simp [← hbehind] at hfront
    · simp [← hbehind] at hfront
    · obtain ⟨rfl, rfl, -⟩ : c = '\x7b' ∧ d = '\x7b' ∧ _ = behind := by
        simpa [← hbehind] using hfront
      exact ⟨inner, hfront.symm⟩
  · rintro ⟨inner, rfl⟩
    exact ⟨⟨inner ++ ['\x7d', '\x7d'], by simp⟩, ⟨['\x7b', '\x7b'] ++ inner, rfl⟩⟩

/-- The blanks at the end begin behind the last character that is none. -/
theorem withoutTrail_append {c : Char} {blanks : List Char} (hc : isBlank c = false)
    (hb : ∀ d ∈ blanks, isBlank d = true) (text : List Char) :
    withoutTrail (text ++ c :: blanks) = text ++ [c] ∧ trail (text ++ c :: blanks) = blanks := by
  have hreverse : (text ++ c :: blanks).reverse = blanks.reverse ++ c :: text.reverse := by simp
  have hblanks : ∀ d ∈ blanks.reverse, isBlank d = true := fun d hd =>
    hb d (List.mem_reverse.mp hd)
  rw [withoutTrail, trail, hreverse, Text.dropWhile_append_cons hblanks hc,
    Text.takeWhile_append_cons hblanks hc]
  simp

theorem not_isBrace_of_notMem {text : List Char} (h : '\x7b' ∉ text) :
    ∀ c ∈ text, (!isBrace c) = true := by
  intro c hc
  have hne : c ≠ '\x7b' := fun heq => h (heq ▸ hc)
  simp [isBrace, hne]

theorem any_isQuote_eq_false_iff {last : Option Char} :
    last.any isQuote = false ↔ ∀ c ∈ last, isQuote c = false := by
  cases last <;> simp

namespace BareLeaf

variable {line before leaf trail : List Char}

/-- The text behind the first brace of the line. -/
theorem exists_eq_cons (h : BareLeaf line before leaf trail) :
    ∃ rest, leaf ++ trail = '\x7b' :: rest := by
  obtain ⟨inner, hinner⟩ := h.braces
  exact ⟨'\x7b' :: inner ++ ['\x7d', '\x7d'] ++ trail, by simp [hinner]⟩

theorem trail_append (h : BareLeaf line before leaf trail) :
    withoutTrail (leaf ++ trail) = leaf ∧ Quoting.trail (leaf ++ trail) = trail := by
  obtain ⟨inner, hinner⟩ := h.braces
  have hend : leaf = ['\x7b', '\x7b'] ++ inner ++ ['\x7d'] ++ ['\x7d'] := by simp [hinner]
  rw [hend, List.append_assoc, List.singleton_append]
  exact withoutTrail_append (by decide) h.blank _

theorem quoteLeaf_eq (h : BareLeaf line before leaf trail) :
    quoteLeaf line = before ++ singleQuoted leaf ++ trail := by
  obtain ⟨rest, hrest⟩ := h.exists_eq_cons
  have hbefore := not_isBrace_of_notMem h.brace_notMem
  have hline : line = before ++ '\x7b' :: rest := by rw [h.line_eq, List.append_assoc, hrest]
  have htake := Text.takeWhile_append_cons (c := '\x7b') hbefore (by decide) rest
  have hdrop := Text.dropWhile_append_cons (c := '\x7b') hbefore (by decide) rest
  rw [← hline] at htake hdrop
  rw [← hrest] at hdrop
  have hquote : before.getLast?.any isQuote = false := any_isQuote_eq_false_iff.mpr h.not_quoted
  simp only [quoteLeaf, htake, hdrop, h.trail_append, isLeaf_iff.mpr h.braces, hquote]
  rfl

end BareLeaf

theorem quoteLeaf_eq_self {line : List Char}
    (h : ∀ before leaf trail, ¬ BareLeaf line before leaf trail) : quoteLeaf line = line := by
  dsimp only [quoteLeaf]
  split
  · next hcond =>
    obtain ⟨hleaf, hquote⟩ : isLeaf _ = true ∧ _ = false := by simpa using hcond
    have hbare : BareLeaf line (line.takeWhile fun c => !isBrace c)
        (withoutTrail (line.dropWhile fun c => !isBrace c))
        (trail (line.dropWhile fun c => !isBrace c)) :=
      { line_eq := by
          rw [List.append_assoc, withoutTrail_append_trail, List.takeWhile_append_dropWhile]
        brace_notMem := fun hmem => absurd (List.mem_takeWhile_imp hmem) (by decide)
        braces := isLeaf_iff.mp hleaf
        blank := fun c hc => List.mem_takeWhile_imp (List.mem_reverse.mp hc)
        not_quoted := any_isQuote_eq_false_iff.mp hquote }
    exact absurd hbare (h _ _ _)
  · rfl

end Leaf

section Wildcard

/-- The characters that a margin is made of. -/
def isMarginChar (c : Char) : Bool := isBlank c || c = '-'

theorem IsMargin.isMarginChar {margin : List Char} (h : IsMargin margin) :
    ∀ c ∈ margin, isMarginChar c = true := by
  intro c hc
  rw [Quoting.isMarginChar, Bool.or_eq_true]
  cases h with
  | blanks hi => exact Or.inl (hi c hc)
  | item hi hg hne =>
    rcases List.mem_append.mp hc with hc | hc
    · exact Or.inl (hi c hc)
    · rcases List.mem_cons.mp hc with rfl | hc
      · exact Or.inr rfl
      · exact Or.inl (hg c hc)

theorem quoteStar_eq_some_iff {text quoted : List Char} :
    quoteStar text = some quoted ↔
      ∃ rest, text = '*' :: ':' :: rest ∧ quoted = ['"', '*', '"', ':'] ++ rest := by
  unfold quoteStar
  split
  · simp [eq_comm]
  · next hnot =>
    constructor
    · rintro ⟨⟩
    · rintro ⟨rest, rfl, -⟩
      exact absurd rfl (hnot rest)

theorem BareWildcard.quoteWildcard_eq {line margin rest : List Char}
    (h : BareWildcard line margin rest) :
    quoteWildcard line = margin ++ ['"', '*', '"', ':'] ++ rest := by
  obtain ⟨rfl, hmargin⟩ := h
  have hstar : isBlank '*' = false := by decide
  have hquote : quoteStar ('*' :: ':' :: rest) = some (['"', '*', '"', ':'] ++ rest) :=
    quoteStar_eq_some_iff.mpr ⟨rest, rfl, rfl⟩
  cases hmargin with
  | blanks hi =>
    have htake := Text.takeWhile_append_cons hi hstar (':' :: rest)
    have hdrop := Text.dropWhile_append_cons hi hstar (':' :: rest)
    simp [quoteWildcard, htake, hdrop, hquote]
  | @item indent gap hi hg hne =>
    have hdash : isBlank '-' = false := by decide
    have htake := Text.takeWhile_append_cons hi hdash (gap ++ '*' :: ':' :: rest)
    have hdrop := Text.dropWhile_append_cons hi hdash (gap ++ '*' :: ':' :: rest)
    have htakeGap := Text.takeWhile_append_cons hg hstar (':' :: rest)
    have hdropGap := Text.dropWhile_append_cons hg hstar (':' :: rest)
    simp [quoteWildcard, htake, hdrop, htakeGap, hdropGap, hquote, hne]

theorem quoteWildcard_eq_self {line : List Char}
    (h : ∀ margin rest, ¬ BareWildcard line margin rest) : quoteWildcard line = line := by
  have hindent : ∀ c ∈ line.takeWhile isBlank, isBlank c = true :=
    fun c hc => List.mem_takeWhile_imp hc
  have hline := List.takeWhile_append_dropWhile (p := isBlank) (l := line)
  dsimp only [quoteWildcard]
  split
  · next rest hdrop =>
    split
    · rfl
    · next hgap =>
      split
      · next quoted hquoted =>
        obtain ⟨behind, hbehind, -⟩ := quoteStar_eq_some_iff.mp hquoted
        have hrest := List.takeWhile_append_dropWhile (p := isBlank) (l := rest)
        have hmargin := IsMargin.item hindent (fun c hc => List.mem_takeWhile_imp hc)
          (mt List.isEmpty_iff.mpr hgap)
        refine absurd ⟨?_, hmargin⟩ (h _ behind)
        rw [List.append_assoc, List.cons_append, ← hbehind, hrest, ← hdrop, hline]
      · rfl
  · split
    · next quoted hquoted =>
      obtain ⟨behind, hbehind, -⟩ := quoteStar_eq_some_iff.mp hquoted
      refine absurd ⟨?_, IsMargin.blanks hindent⟩ (h _ behind)
      rw [← hbehind, hline]
    · rfl

end Wildcard

/-- A wildcard key ends before a character that no wildcard key holds. -/
theorem BareWildcard.exists_eq_append {front back margin rest : List Char} {c : Char}
    (h : BareWildcard (front ++ c :: back) margin rest) (hc : isMarginChar c = false)
    (hstar : c ≠ '*') (hcolon : c ≠ ':') :
    ∃ middle, front = margin ++ ['*', ':'] ++ middle ∧ rest = middle ++ c :: back := by
  have hline : front ++ c :: back = (margin ++ ['*', ':']) ++ rest := by simp [h.line_eq]
  rcases List.append_eq_append_iff.mp hline with ⟨behind, hmargin, hback⟩ | ⟨middle, hfront, hrest⟩
  · cases behind with
    | nil => exact ⟨[], by simp [hmargin], by simp [hback]⟩
    | cons d behind =>
      obtain ⟨rfl, -⟩ := List.cons.inj hback
      have hmem : c ∈ margin ++ ['*', ':'] := hmargin ▸ by simp
      rcases List.mem_append.mp hmem with hmem | hmem
      · rw [h.isMargin.isMarginChar c hmem] at hc
        cases hc
      · simp [hstar, hcolon] at hmem
  · exact ⟨middle, hfront, hrest⟩

section Lines

variable {line before leaf trail margin middle rest : List Char}

theorem BareLeaf.exists_middle (hl : BareLeaf line before leaf trail)
    (hw : BareWildcard line margin rest) :
    ∃ middle, before = margin ++ ['*', ':'] ++ middle ∧ rest = middle ++ leaf ++ trail := by
  obtain ⟨behind, hbehind⟩ := hl.exists_eq_cons
  have hline : line = before ++ '\x7b' :: behind := by rw [hl.line_eq, List.append_assoc, hbehind]
  rw [hline] at hw
  obtain ⟨middle, hbefore, hrest⟩ := hw.exists_eq_append (by decide) (by decide) (by decide)
  exact ⟨middle, hbefore, by rw [hrest, List.append_assoc, hbehind]⟩

theorem quoteLine_of_bareWildcard (hl : ∀ before leaf trail, ¬ BareLeaf line before leaf trail)
    (hw : BareWildcard line margin rest) :
    quoteLine line = margin ++ ['"', '*', '"', ':'] ++ rest := by
  rw [quoteLine, quoteLeaf_eq_self hl, hw.quoteWildcard_eq]

theorem quoteLine_of_both (hl : BareLeaf line (margin ++ ['*', ':'] ++ middle) leaf trail)
    (hm : IsMargin margin) :
    quoteLine line = margin ++ ['"', '*', '"', ':'] ++ middle ++ singleQuoted leaf ++ trail := by
  have hw : BareWildcard (margin ++ ['*', ':'] ++ middle ++ singleQuoted leaf ++ trail) margin
      (middle ++ singleQuoted leaf ++ trail) := ⟨by simp, hm⟩
  rw [quoteLine, hl.quoteLeaf_eq, hw.quoteWildcard_eq]
  simp

theorem quoteLine_of_bareLeaf (hl : BareLeaf line before leaf trail)
    (hw : ∀ margin rest, ¬ BareWildcard line margin rest) :
    quoteLine line = before ++ singleQuoted leaf ++ trail := by
  rw [quoteLine, hl.quoteLeaf_eq]
  refine quoteWildcard_eq_self ?_
  -- A wildcard of the quoted line ends before the quote, and so the line itself has it.
  intro margin rest hwild
  have hline : before ++ singleQuoted leaf ++ trail =
      before ++ '\'' :: (doubled leaf ++ ['\''] ++ trail) := by
    simp [singleQuoted, doubled]
  rw [hline] at hwild
  obtain ⟨middle, hbefore, -⟩ := hwild.exists_eq_append (by decide) (by decide) (by decide)
  refine hw margin (middle ++ leaf ++ trail) ⟨?_, hwild.isMargin⟩
  rw [hl.line_eq, hbefore]
  simp

theorem quoteLine_eq_self (hl : ∀ before leaf trail, ¬ BareLeaf line before leaf trail)
    (hw : ∀ margin rest, ¬ BareWildcard line margin rest) : quoteLine line = line := by
  rw [quoteLine, quoteLeaf_eq_self hl, quoteWildcard_eq_self hw]

theorem lineQuoted_quoteLine (line : List Char) : LineQuoted line (quoteLine line) := by
  have hscalar (leaf : List Char) : unquote? (singleQuoted leaf) = some leaf :=
    unquote?_eq_some_iff.mpr rfl
  rcases exists_bareWildcard_or line with ⟨margin, rest, hwild⟩ | hw
  · rcases exists_bareLeaf_or line with ⟨before, leaf, trail, hbare⟩ | hl
    · obtain ⟨middle, rfl, rfl⟩ := hbare.exists_middle hwild
      rw [quoteLine_of_both hbare hwild.isMargin]
      exact .both hbare hwild (hscalar leaf)
    · rw [quoteLine_of_bareWildcard hl hwild]
      exact .wildcard hl hwild
  · rcases exists_bareLeaf_or line with ⟨before, leaf, trail, hbare⟩ | hl
    · rw [quoteLine_of_bareLeaf hbare hw]
      exact .leaf hbare hw (hscalar leaf)
    · rw [quoteLine_eq_self hl hw]
      exact .unchanged hl hw

/-- What quoting makes of a line is told by the bare leaf and the bare wildcard of the line. -/
theorem lineQuoted_iff {quoted : List Char} : LineQuoted line quoted ↔ quoted = quoteLine line := by
  constructor
  · intro h
    cases h with
    | unchanged hl hw => exact (quoteLine_eq_self hl hw).symm
    | leaf hl hw hs => rw [quoteLine_of_bareLeaf hl hw, unquote?_eq_some_iff.mp hs]
    | wildcard hl hw => exact (quoteLine_of_bareWildcard hl hw).symm
    | both hl hw hs => rw [quoteLine_of_both hl hw.isMargin, unquote?_eq_some_iff.mp hs]
  · rintro rfl
    exact lineQuoted_quoteLine line

end Lines

section Texts

/-- The lines of a text. -/
def lines (text : String) : List (List Char) := text.toList.splitOn '\n'

theorem mem_of_mem_doubled {c : Char} {text : List Char} (h : c ∈ doubled text) : c ∈ text := by
  obtain ⟨d, hd, hc⟩ := List.mem_flatMap.mp h
  split at hc
  · next heq =>
    obtain rfl : c = d := by simpa [heq] using hc
    exact hd
  · exact List.mem_singleton.mp hc ▸ hd

/-- Quoting puts quotes into a line and no other characters. -/
theorem mem_quoteLine {c : Char} {line : List Char} (h : c ∈ quoteLine line) :
    c ∈ line ∨ isQuote c = true := by
  have hleaf {text : List Char} (h : c ∈ singleQuoted text) : c ∈ text ∨ isQuote c = true := by
    have hmem : c = '\'' ∨ c ∈ doubled text ∨ c = '\'' := by simpa [singleQuoted, doubled] using h
    rcases hmem with rfl | hmem | rfl
    · exact Or.inr (by decide)
    · exact Or.inl (mem_of_mem_doubled hmem)
    · exact Or.inr (by decide)
  have hstar (h : c ∈ ['"', '*', '"', ':']) : c ∈ ['*', ':'] ∨ isQuote c = true := by
    have hmem : c = '"' ∨ c = '*' ∨ c = '"' ∨ c = ':' := by simpa using h
    rcases hmem with rfl | rfl | rfl | rfl <;> decide
  have hquoted := lineQuoted_quoteLine line
  generalize quoteLine line = quoted at h hquoted
  cases hquoted with
  | unchanged hl hw => exact Or.inl h
  | leaf hl hw hs =>
    rw [unquote?_eq_some_iff.mp hs] at h
    rw [hl.line_eq]
    grind
  | wildcard hl hw =>
    rw [hw.line_eq]
    grind
  | both hl hw hs =>
    rw [unquote?_eq_some_iff.mp hs] at h
    rw [hl.line_eq]
    grind

theorem lines_quote (text : String) : lines (quote text) = (lines text).map quoteLine := by
  have hlines : ∀ line ∈ (lines text).map quoteLine, '\n' ∉ line := by
    refine List.forall_mem_map.mpr ?_
    intro line hline hmem
    rcases mem_quoteLine hmem with hmem | hmem
    · exact Text.notMem_of_mem_splitOn hline hmem
    · exact absurd hmem (by decide)
  have hne : (lines text).map quoteLine ≠ [] := by
    simp [lines]
  rw [quote, Text.splitAt_eq_splitOn, Text.joinWith_eq_intercalate, lines, String.toList_ofList]
  exact List.splitOn_intercalate '\n' hlines hne

theorem lines_inj {text other : String} : lines text = lines other ↔ text = other := by
  have hjoin (text : String) : List.intercalate ['\n'] (lines text) = text.toList :=
    List.intercalate_splitOn '\n'
  constructor
  · intro h
    rw [← String.toList_inj, ← hjoin text, h, hjoin other]
  · rintro rfl
    rfl

theorem lines_append (text other : String) :
    lines (text ++ "\n" ++ other) = lines text ++ lines other := by
  have htext : (text ++ "\n" ++ other).toList = text.toList ++ '\n' :: other.toList := by
    simp
  rw [lines, htext, List.splitOn_append_cons_self]
  rfl

/-- The lines of a quoted text are those of the text with their bare leaves and bare wildcards quoted
and nothing else changed. -/
theorem eq_quote_iff_lineQuoted (text quoted : String) :
    quoted = quote text ↔ List.Forall₂ LineQuoted (lines text) (lines quoted) := by
  have hrelation : LineQuoted = fun line quoted => quoteLine line = quoted := by
    funext line quoted
    exact propext (lineQuoted_iff.trans eq_comm)
  rw [← lines_inj, lines_quote, hrelation, ← List.forall₂_map_left_iff, List.forall₂_eq_eq_eq,
    eq_comm]

end Texts

end ServiceAtlas.Quoting
