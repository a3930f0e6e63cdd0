import ServiceAtlas.Proofs.Template.BareLines
import ServiceAtlas.Template.Basic

/-!
# Line breaks with a return

A line break may have a return in front of it. The return is a character of its line like any other,
so that a leaf in front of it does not end the line and stays bare, while a wildcard key at the head
of the line is quoted all the same. The last line has no break behind it and keeps its leaf at its
end.
-/
namespace ServiceAtlas

namespace Quoting

/-- A text with a return in front of each line break. -/
def returned (text : List Char) : List Char :=
  text.flatMap fun c => if c = '\n' then ['\r', '\n'] else [c]

def withReturns (text : String) : String := String.ofList (returned text.toList)

section Returned

variable {line : List Char}

theorem returned_of_notMem (h : '\n' ∉ line) : returned line = line := by
  induction line with
  | nil => rfl
  | cons c line ih =>
    obtain ⟨hc, hline⟩ : '\n' ≠ c ∧ '\n' ∉ line := by simpa using h
    rw [returned, List.flatMap_cons, ← returned, ih hline, if_neg (Ne.symm hc)]
    rfl

theorem returned_append_break (h : '\n' ∉ line) (rest : List Char) :
    returned (line ++ '\n' :: rest) = line ++ '\r' :: '\n' :: returned rest := by
  have hreturned := returned_of_notMem h
  rw [returned] at hreturned
  rw [returned, List.flatMap_append, hreturned, List.flatMap_cons, ← returned]
  rfl

/-- Lines joined by breaks with a return have the return at the end of each but the last. -/
theorem returned_intercalate {front : List (List Char)} {last : List Char}
    (h : ∀ line ∈ front ++ [last], '\n' ∉ line) :
    returned (['\n'].intercalate (front ++ [last])) =
      ['\n'].intercalate (front.map (· ++ ['\r']) ++ [last]) := by
  induction front with
  | nil => simpa using returned_of_notMem (h last (by simp))
  | cons line front ih =>
    obtain ⟨hline, hrest⟩ := List.forall_mem_cons.mp h
    rw [List.cons_append, List.intercalate_cons_of_ne_nil (by simp), List.append_assoc,
      List.singleton_append, returned_append_break hline, ih hrest, List.map_cons,
      List.cons_append, List.intercalate_cons_of_ne_nil (by simp)]
    simp

theorem lines_withReturns {text : String} {front : List (List Char)} {last : List Char}
    (h : lines text = front ++ [last]) :
    lines (withReturns text) = front.map (· ++ ['\r']) ++ [last] := by
  have hbreak : ∀ line ∈ front ++ [last], '\n' ∉ line := by
    rw [← h]
    intro line hline
    exact Text.notMem_of_mem_splitOn hline
  have htext : text.toList = ['\n'].intercalate (front ++ [last]) := by
    rw [← h, lines, List.intercalate_splitOn]
  rw [lines, withReturns, String.toList_ofList, htext, returned_intercalate hbreak]
  refine List.splitOn_intercalate '\n' ?_ (by simp)
  intro line hline
  rcases List.mem_append.mp hline with hline | hline
  · obtain ⟨line, hmem, rfl⟩ := List.mem_map.mp hline
    simpa using hbreak line (List.mem_append_left _ hmem)
  · exact hbreak line (List.mem_append_right _ hline)

/-- Nothing but blanks is behind a bare leaf, and a return is none. -/
theorem not_bareLeaf_return (line before leaf trail : List Char) :
    ¬ BareLeaf (line ++ ['\r']) before leaf trail := by
  intro h
  obtain ⟨inner, hinner⟩ := h.braces
  have hline := h.line_eq
  rcases List.eq_nil_or_concat' trail with rfl | ⟨blanks, c, rfl⟩
  · have hend : line ++ ['\r'] =
        (before ++ ['\x7b', '\x7b'] ++ inner ++ ['\x7d']) ++ ['\x7d'] := by
      simp [hline, hinner]
    exact absurd (List.append_inj' hend rfl).2 (by decide)
  · obtain ⟨-, hc⟩ := List.append_inj' (hline.trans (List.append_assoc ..).symm) rfl
    obtain rfl : '\r' = c := List.singleton_inj.mp hc
    have hblank := h.blank '\r' (by simp)
    revert hblank
    decide

/-- A wildcard key is found whatever character that is none of its own ends the line. -/
theorem quoteWildcard_concat {c : Char} (hc : isMarginChar c = false) (hstar : c ≠ '*')
    (hcolon : c ≠ ':') (line : List Char) :
    quoteWildcard (line ++ [c]) = quoteWildcard line ++ [c] := by
  rcases exists_bareWildcard_or line with ⟨margin, rest, hwild⟩ | hw
  · have hwild' : BareWildcard (line ++ [c]) margin (rest ++ [c]) :=
      ⟨by simp [hwild.line_eq], hwild.isMargin⟩
    rw [hwild.quoteWildcard_eq, hwild'.quoteWildcard_eq, ← List.append_assoc]
  · have hw' : ∀ margin rest, ¬ BareWildcard (line ++ [c]) margin rest := by
      intro margin rest hwild
      obtain ⟨middle, hline, -⟩ := hwild.exists_eq_append hc hstar hcolon
      exact hw margin middle ⟨by simp [hline], hwild.isMargin⟩
    rw [quoteWildcard_eq_self hw, quoteWildcard_eq_self hw']

/-- In front of a return no leaf is quoted, but a wildcard key is. -/
theorem quoteLine_return (line : List Char) :
    quoteLine (line ++ ['\r']) = quoteWildcard line ++ ['\r'] := by
  rw [quoteLine, quoteLeaf_eq_self (not_bareLeaf_return line),
    quoteWildcard_concat (by decide) (by decide) (by decide)]

/-- Only a bare leaf makes a line more than its wildcard key does. -/
theorem quoteLine_eq_quoteWildcard_iff :
    quoteLine line = quoteWildcard line ↔
      ∀ before leaf trail, ¬ BareLeaf line before leaf trail := by
  constructor
  · intro h before leaf trail hbare
    have hleaf : singleQuoted leaf = leaf := by
      rcases exists_bareWildcard_or line with ⟨margin, rest, hwild⟩ | hw
      · obtain ⟨middle, rfl, rfl⟩ := hbare.exists_middle hwild
        rw [quoteLine_of_both hbare hwild.isMargin, hwild.quoteWildcard_eq] at h
        simpa using h
      · rw [quoteLine_of_bareLeaf hbare hw, quoteWildcard_eq_self hw, hbare.line_eq] at h
        simpa using h
    obtain ⟨inner, rfl⟩ := hbare.braces
    simp [singleQuoted] at hleaf
  · intro hl
    rw [quoteLine, quoteLeaf_eq_self hl]

end Returned

/-- Where the line breaks have returns in front of them, a leaf is quoted on the last line only, and
a wildcard key is quoted on each. So the returns make no difference to the quoting of a text just if
none of its lines but the last has a bare leaf. -/
theorem quote_withReturns (text : String) :
    ∃ front last, lines text = front ++ [last] ∧
      lines (quote (withReturns text)) =
        front.map (fun line => quoteWildcard line ++ ['\r']) ++ [quoteLine last] ∧
      (quote (withReturns text) = withReturns (quote text) ↔
        ∀ line ∈ front, ∀ before leaf trail, ¬ BareLeaf line before leaf trail) := by
  have hne : lines text ≠ [] := List.splitOn_ne_nil '\n' text.toList
  obtain ⟨front, last, hlines⟩ := (List.eq_nil_or_concat' (lines text)).resolve_left hne
  have hreturns : lines (quote (withReturns text)) =
      front.map (fun line => quoteWildcard line ++ ['\r']) ++ [quoteLine last] := by
    rw [lines_quote, lines_withReturns hlines, List.map_append, List.map_map]
    simp only [Function.comp_def, quoteLine_return, List.map_singleton]
  have hquoted : lines (quote text) = front.map quoteLine ++ [quoteLine last] := by
    rw [lines_quote, hlines, List.map_append, List.map_singleton]
  refine ⟨front, last, hlines, hreturns, ?_⟩
  rw [← lines_inj, hreturns, lines_withReturns hquoted, List.append_cancel_right_eq, List.map_map,
    List.map_inj_left]
  refine forall₂_congr fun line _ => ?_
  rw [← quoteLine_eq_quoteWildcard_iff, Function.comp_apply, List.append_cancel_right_eq, eq_comm]

/-- A leaf that is quoted in front of a line break stays bare once the break has a return, and the
template is no longer one. -/
theorem quote_withReturns_host :
    let text := "host: \x7b\x7b all.kafka.host \x7d\x7d\n"
    '\r' ∉ text.toList ∧ quote (withReturns text) ≠ withReturns (quote text) ∧
      withReturns (quote text) = "host: '\x7b\x7b all.kafka.host \x7d\x7d'\r\n" ∧
      quote (withReturns text) = "host: \x7b\x7b all.kafka.host \x7d\x7d\r\n" ∧
      (Template.ofText text).toOption.map Template.leafCount = some 1 ∧
      (Template.ofText (withReturns text)).toOption.map Template.leafCount = none := by
  decide +kernel

end Quoting
end ServiceAtlas
