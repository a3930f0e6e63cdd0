import Mathlib.Data.List.Chain
import ServiceAtlas.Proofs.Leaf.Pattern

/-!
# The parts of a pattern

A pattern is read into tokens and separators that stand in turn. They are the only parts of this form
that the pattern can be put together from, so that nothing of it is lost and nothing of it could have
been read in another way.
-/
namespace ServiceAtlas

namespace Separator

/-- Only a forced end ends in its mark as it is read. -/
theorem ofRun_written_eq_iff {s : Separator} :
    ofRun s.written = s ↔ (s.forcedEnd = false → ∀ c ∈ s.literal.getLast?, c ≠ '$') := by
  obtain ⟨literal, forcedEnd⟩ := s
  cases forcedEnd with
  | true =>
    have hmark : Text.before? ['$'] (literal ++ ['$']) = some literal :=
      Text.before?_eq_some_iff.mpr rfl
    simp [ofRun, written, hmark]
  | false =>
    cases hmark : Text.before? ['$'] literal with
    | none =>
      have hlast : ∀ c ∈ literal.getLast?, c ≠ '$' := by
        rintro c hc rfl
        obtain ⟨front, hfront⟩ := List.getLast?_eq_some_iff.mp hc
        rw [Text.before?_eq_some_iff.mpr hfront] at hmark
        cases hmark
      simpa [ofRun, written, hmark] using hlast
    | some front =>
      obtain rfl := Text.before?_eq_some_iff.mp hmark
      simp [ofRun, written, hmark]

end Separator

/-- A token of a pattern or a separator between two. -/
inductive Part where
  | token (path : List Char)
  | separator (separator : Separator)

namespace Part

def written : Part → List Char
  | token path => path
  | separator s => s.written

def path? : Part → Option (List Char)
  | token path => some path
  | separator _ => none

def separator? : Part → Option Separator
  | token _ => none
  | separator s => some s

/-- The form of a part: a token is a dot with path characters behind it, and a separator is some text
without a dot, in which only a forced end ends in its mark. -/
def WellFormed : Part → Prop
  | token path => ∃ rest, path = '.' :: rest ∧ ∀ c ∈ rest, Pattern.isPathChar c = true
  | separator s => s.written ≠ [] ∧ '.' ∉ s.written ∧
      (s.forcedEnd = false → ∀ c ∈ s.literal.getLast?, c ≠ '$')

/-- Tokens and separators take turns, and a token ends where the separator behind it begins. -/
def Follows : Part → Part → Prop
  | token _, separator s => ∀ c ∈ s.written.head?, Pattern.isPathChar c = false
  | separator _, token _ => True
  | token _, token _ => False
  | separator _, separator _ => False

/-- The part as it is found in a pattern. -/
def piece : Part → Piece
  | token path => .token path
  | separator s => .run s.written

end Part

/-- The part that a piece of a pattern is read as. -/
def Piece.part : Piece → Part
  | token path => .token path
  | run text => .separator (.ofRun text)

namespace Part

@[simp] theorem written_part (p : Piece) : p.part.written = p.written := by
  cases p with
  | token path => rfl
  | run text => exact Separator.written_ofRun text

theorem WellFormed.part_piece {p : Part} (h : p.WellFormed) : p.piece.part = p := by
  cases p with
  | token path => rfl
  | separator s => exact congrArg separator (Separator.ofRun_written_eq_iff.mpr h.2.2)

end Part

namespace Pattern

/-- The pattern with some tokens and separators. -/
def ofParts (parts : List Part) : Pattern :=
  ⟨parts.filterMap Part.path?, parts.filterMap Part.separator?⟩

@[simp] theorem ofParts_token_cons (path : List Char) (parts : List Part) :
    ofParts (.token path :: parts) =
      ⟨path :: (ofParts parts).paths, (ofParts parts).separators⟩ := rfl

@[simp] theorem ofParts_separator_cons (s : Separator) (parts : List Part) :
    ofParts (.separator s :: parts) =
      ⟨(ofParts parts).paths, s :: (ofParts parts).separators⟩ := rfl

/-- The text that some parts make up. -/
def writtenParts (parts : List Part) : List Char := parts.flatMap Part.written

/-- The parts that a pattern is read into. -/
def partsOf (text : List Char) : List Part := (pieces text).map Piece.part

/-- Well-formed tokens and separators in turn. -/
structure AreParts (parts : List Part) : Prop where
  wellFormed : ∀ p ∈ parts, p.WellFormed
  alternating : parts.IsChain Part.Follows

theorem ofParts_partsOf (text : List Char) : ofParts (partsOf text) = read text := by
  have hpath : Part.path? ∘ Piece.part = path? := by
    funext p
    cases p <;> rfl
  have hseparator : Part.separator? ∘ Piece.part = separator? := by
    funext p
    cases p <;> rfl
  rw [ofParts, partsOf, List.filterMap_map, List.filterMap_map, hpath, hseparator, read]

theorem writtenParts_partsOf (text : List Char) : writtenParts (partsOf text) = text := by
  rw [writtenParts, partsOf, List.flatMap_map]
  simpa only [Part.written_part] using written_pieces text

section Read

/-- A part like the one that the reader is in. -/
def within : (inToken : Bool) → Part
  | true => .token []
  | false => .separator ⟨[], false⟩

variable {parts : List Part}

-- What may follow a part does not depend on its text.
theorem isChain_token_cons {path : List Char} :
    (.token path :: parts).IsChain Part.Follows ↔ (within true :: parts).IsChain Part.Follows := by
  rw [List.isChain_cons, List.isChain_cons]
  refine and_congr_left' (forall₂_congr fun p _ => ?_)
  cases p <;> rfl

theorem isChain_separator_cons {s : Separator} :
    (.separator s :: parts).IsChain Part.Follows ↔
      (within false :: parts).IsChain Part.Follows := by
  rw [List.isChain_cons, List.isChain_cons]
  refine and_congr_left' (forall₂_congr fun p _ => ?_)
  cases p <;> rfl

/-- No dot is in the rest of a separator nor in the separators behind it. -/
theorem dot_notMem_continued (inToken : Bool) (text : List Char) :
    (inToken = false → '.' ∉ (continued inToken text).1) ∧
      ∀ run, .run run ∈ (continued inToken text).2 → '.' ∉ run := by
  induction text generalizing inToken with
  | nil => cases inToken <;> simp [continued]
  | cons c text ih =>
    obtain ⟨hrest, hruns⟩ := ih false
    have htoken := (ih true).2
    cases inToken with
    | true =>
      by_cases hc : isPathChar c = true
      · simpa [continued, hc] using htoken
      · have hdot : '.' ≠ c := by
          rintro rfl
          exact hc (by decide)
        simpa [continued, hc, hdot, hrest rfl] using hruns
    | false =>
      by_cases hc : c = '.'
      · simpa [continued, hc] using htoken
      · simpa [continued, hc, Ne.symm hc, hrest rfl] using hruns

/-- The part that the reader is in and those that it reads behind it stand in turn. -/
theorem isChain_continued (inToken : Bool) (text : List Char) :
    (within inToken :: (continued inToken text).2.map Piece.part).IsChain Part.Follows := by
  induction text generalizing inToken with
  | nil => cases inToken <;> exact List.isChain_singleton _
  | cons c text ih =>
    cases inToken with
    | true =>
      by_cases hc : isPathChar c = true
      · simpa [continued, hc] using ih true
      · have hfollows : Part.Follows (within true)
            (Piece.run (c :: (continued false text).1)).part := by
          simpa [within, Piece.part, Part.Follows] using hc
        have htail := List.isChain_cons_cons.mpr ⟨hfollows, isChain_separator_cons.mpr (ih false)⟩
        simpa only [continued, hc, Bool.false_eq_true, ↓reduceIte, List.map_cons] using htail
    | false =>
      by_cases hc : c = '.'
      · have hfollows : Part.Follows (within false)
            (Piece.token (c :: (continued true text).1)).part := trivial
        have htail := List.isChain_cons_cons.mpr ⟨hfollows, isChain_token_cons.mpr (ih true)⟩
        simpa only [continued, hc, Bool.false_eq_true, ↓reduceIte, List.map_cons] using htail
      · simpa [continued, hc] using ih false

theorem dot_notMem_of_mem_pieces {text run : List Char} (h : .run run ∈ pieces text) :
    '.' ∉ run := by
  obtain ⟨hrest, hruns⟩ := dot_notMem_continued false text
  unfold pieces at h
  split at h
  · next heq => exact hruns run (by rw [heq]; exact h)
  · next c rest ps heq =>
    rcases List.mem_cons.mp h with h | h
    · obtain rfl := Piece.run.inj h
      simpa [heq] using hrest rfl
    · exact hruns run (by rw [heq]; exact h)

theorem alternating_partsOf (text : List Char) : (partsOf text).IsChain Part.Follows := by
  have hchain := isChain_continued false text
  unfold partsOf pieces
  split
  · next heq =>
    rw [heq] at hchain
    exact hchain.tail
  · next c rest ps heq =>
    rw [heq] at hchain
    exact isChain_separator_cons.mpr hchain

theorem areParts_partsOf (text : List Char) : AreParts (partsOf text) := by
  refine ⟨?_, alternating_partsOf text⟩
  refine List.forall_mem_map.mpr ?_
  intro p hp
  have hform := wellFormed_of_mem_pieces hp
  cases p with
  | token path => exact hform
  | run run =>
    have hwritten := Separator.written_ofRun run
    refine ⟨?_, ?_, Separator.ofRun_written_eq_iff.mp (congrArg _ hwritten)⟩
    · rw [hwritten]
      exact hform
    · rw [hwritten]
      exact dot_notMem_of_mem_pieces hp

end Read

section Written

theorem continued_token {rest : List Char} (h : ∀ c ∈ rest, isPathChar c = true)
    (text : List Char) :
    continued true (rest ++ text) =
      (rest ++ (continued true text).1, (continued true text).2) := by
  induction rest with
  | nil => rfl
  | cons c rest ih =>
    obtain ⟨hc, hrest⟩ := List.forall_mem_cons.mp h
    simp [continued, hc, ih hrest]

theorem continued_run {run : List Char} (h : '.' ∉ run) (text : List Char) :
    continued false (run ++ text) =
      (run ++ (continued false text).1, (continued false text).2) := by
  induction run with
  | nil => rfl
  | cons c run ih =>
    obtain ⟨hc, hrun⟩ : '.' ≠ c ∧ '.' ∉ run := by simpa using h
    simp [continued, Ne.symm hc, ih hrun]

-- The induction is on the parts. Each is read up to the next, which does not go on with it.
theorem continued_writtenParts {parts : List Part} {inToken : Bool}
    (hform : ∀ p ∈ parts, p.WellFormed)
    (hchain : (within inToken :: parts).IsChain Part.Follows) :
    continued inToken (writtenParts parts) = ([], parts.map Part.piece) := by
  induction parts generalizing inToken with
  | nil => cases inToken <;> rfl
  | cons p parts ih =>
    obtain ⟨hp, hparts⟩ := List.forall_mem_cons.mp hform
    obtain ⟨hfollows, htail⟩ := List.isChain_cons_cons.mp hchain
    change continued inToken (p.written ++ writtenParts parts) =
      ([], p.piece :: parts.map Part.piece)
    cases p with
    | token path =>
      cases inToken with
      | true => exact hfollows.elim
      | false =>
        obtain ⟨rest, rfl, hpath⟩ := hp
        have htoken := continued_token hpath (writtenParts parts)
        rw [ih hparts (isChain_token_cons.mp htail)] at htoken
        simp [Part.written, Part.piece, continued, htoken]
    | separator s =>
      cases inToken with
      | false => exact hfollows.elim
      | true =>
        obtain ⟨hne, hdot, -⟩ := hp
        obtain ⟨c, run, hs⟩ := List.exists_cons_of_ne_nil hne
        have hc : isPathChar c = false := hfollows c (by rw [hs]; rfl)
        have hrun := continued_run (List.not_mem_of_not_mem_cons (hs ▸ hdot)) (writtenParts parts)
        rw [ih hparts (isChain_separator_cons.mp htail)] at hrun
        simp [Part.written, Part.piece, hs, continued, hc, hrun]

/-- Well-formed parts in turn are what their text is read into. -/
theorem pieces_writtenParts {parts : List Part} (h : AreParts parts) :
    pieces (writtenParts parts) = parts.map Part.piece := by
  cases parts with
  | nil => rfl
  | cons p parts =>
    obtain ⟨hp, hparts⟩ := List.forall_mem_cons.mp h.wellFormed
    cases p with
    | token path =>
      have hchain : (within false :: .token path :: parts).IsChain Part.Follows :=
        List.isChain_cons_cons.mpr ⟨trivial, h.alternating⟩
      rw [pieces, continued_writtenParts h.wellFormed hchain]
    | separator s =>
      obtain ⟨hne, hdot, -⟩ := hp
      obtain ⟨c, run, hs⟩ := List.exists_cons_of_ne_nil hne
      have hread := continued_run hdot (writtenParts parts)
      have htail := isChain_separator_cons.mp h.alternating
      rw [continued_writtenParts hparts htail, List.append_nil, hs] at hread
      have hparts' : writtenParts (.separator s :: parts) = c :: run ++ writtenParts parts :=
        congrArg (· ++ writtenParts parts) hs
      rw [pieces, hparts', hread, List.map_cons, Part.piece, hs]

end Written

/-- The parts of a pattern are the only ones in turn that make it up. -/
theorem partsOf_eq_iff {text : List Char} {parts : List Part} :
    partsOf text = parts ↔ AreParts parts ∧ writtenParts parts = text := by
  constructor
  · rintro rfl
    exact ⟨areParts_partsOf text, writtenParts_partsOf text⟩
  · rintro ⟨h, rfl⟩
    rw [partsOf, pieces_writtenParts h, List.map_map]
    refine (List.map_congr_left ?_).trans (List.map_id parts)
    intro p hp
    exact (h.wellFormed p hp).part_piece

theorem head?_partsOf_isSeparator_iff (text : List Char) :
    (∃ s, (partsOf text).head? = some (.separator s)) ↔ text ≠ [] ∧ text.head? ≠ some '.' := by
  have hform := (areParts_partsOf text).wellFormed
  have htext := writtenParts_partsOf text
  cases hparts : partsOf text with
  | nil =>
    rw [hparts] at htext
    simp [← htext, writtenParts]
  | cons p parts =>
    rw [hparts] at hform htext
    obtain ⟨hp, -⟩ := List.forall_mem_cons.mp hform
    have hhead : text = p.written ++ writtenParts parts := htext.symm
    cases p with
    | token path =>
      obtain ⟨rest, rfl, -⟩ := hp
      simp [hhead, Part.written]
    | separator s =>
      obtain ⟨hne, hdot, -⟩ := hp
      obtain ⟨c, run, hs⟩ := List.exists_cons_of_ne_nil hne
      have hc : c ≠ '.' := by
        rintro rfl
        exact hdot (hs ▸ List.mem_cons_self)
      simp [hhead, Part.written, hs, hc]

/-- A pattern is read into tokens and separators in turn that make it up again, and each such row of
tokens and separators is what its own text is read into. -/
theorem read_lossless_canonical :
    (∀ text, ∃ parts, read text = ofParts parts ∧ writtenParts parts = text ∧ AreParts parts ∧
      ((∃ s, parts.head? = some (.separator s)) ↔ text ≠ [] ∧ text.head? ≠ some '.')) ∧
      ∀ parts, AreParts parts → read (writtenParts parts) = ofParts parts := by
  constructor
  · intro text
    exact ⟨partsOf text, (ofParts_partsOf text).symm, writtenParts_partsOf text,
      areParts_partsOf text, head?_partsOf_isSeparator_iff text⟩
  · intro parts h
    rw [← ofParts_partsOf, partsOf_eq_iff.mpr ⟨h, rfl⟩]

/-- A mark inside a separator, a separator that is forced before another token, and a token that is
only a dot. -/
theorem read_lossless_canonical_marks :
    let parts : List Part := [.separator ⟨"é$:".toList, false⟩, .token ".redis.host".toList,
      .separator ⟨"$b".toList, true⟩, .token ['.'], .separator ⟨[':'], true⟩]
    AreParts parts ∧ writtenParts parts = "é$:.redis.host$b$.:$".toList ∧
      read "é$:.redis.host$b$.:$".toList = ofParts parts := by
  intro parts
  have hform : ∀ p ∈ parts, p.WellFormed := by
    refine List.forall_mem_cons.mpr ⟨⟨by decide, by decide, fun _ c hc => ?_⟩, ?_⟩
    · obtain rfl := Option.some.inj hc
      decide
    refine List.forall_mem_cons.mpr ⟨⟨"redis.host".toList, rfl, List.all_eq_true.mp rfl⟩, ?_⟩
    refine List.forall_mem_cons.mpr ⟨⟨by decide, by decide, nofun⟩, ?_⟩
    refine List.forall_mem_cons.mpr ⟨⟨[], rfl, List.all_eq_true.mp rfl⟩, ?_⟩
    exact List.forall_mem_singleton.mpr ⟨by decide, by decide, nofun⟩
  have hchain : parts.IsChain Part.Follows := by
    simp [parts, Part.Follows, Separator.written, isPathChar]
  have h : AreParts parts := ⟨hform, hchain⟩
  have hwritten : writtenParts parts = "é$:.redis.host$b$.:$".toList := by decide
  exact ⟨h, hwritten, hwritten ▸ read_lossless_canonical.2 parts h⟩

end Pattern
end ServiceAtlas
