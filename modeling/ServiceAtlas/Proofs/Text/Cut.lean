import Mathlib.Data.List.Basic
import ServiceAtlas.Text.Blank
import ServiceAtlas.Text.Cut

/-! Where a text is cut: at the first occurrence of a piece and nowhere else, and not at all where
the piece does not occur. Text without white space at its ends is its own trimmed form. -/
namespace ServiceAtlas.Text

theorem after?_append (head rest : List Char) : after? head (head ++ rest) = some rest :=
  after?_eq_some_iff.mpr rfl

theorem after?_eq_none_of_ne {h c : Char} (hne : h ≠ c) (head text : List Char) :
    after? (h :: head) (c :: text) = none := by
  simp [after?, hne]

theorem exists_cut?_append (piece before rest : List Char) :
    ∃ cut, cut? piece (before ++ piece ++ rest) = some cut := by
  induction before with
  | nil =>
    cases piece with
    | nil => cases rest <;> exact ⟨_, rfl⟩
    | cons p piece =>
      refine ⟨([], rest), ?_⟩
      simp only [List.nil_append, List.cons_append, cut?]
      rw [← List.cons_append, after?_append]
  | cons c before ih =>
    obtain ⟨cut, hcut⟩ := ih
    simp only [List.cons_append, cut?]
    split
    · exact ⟨_, rfl⟩
    · rw [hcut]
      exact ⟨_, rfl⟩

/-- No occurrence of the piece begins before the one where the text is cut. -/
theorem length_le_of_cut? {piece text before rest b r : List Char}
    (h : cut? piece text = some (before, rest)) (hb : text = b ++ piece ++ r) :
    before.length ≤ b.length := by
  induction text generalizing before rest b with
  | nil =>
    obtain ⟨rfl, -⟩ : before = [] ∧ [] = rest := by
      unfold cut? at h
      split at h <;> simp_all
    exact Nat.zero_le _
  | cons c text ih =>
    unfold cut? at h
    split at h
    · obtain ⟨rfl, -⟩ : [] = before ∧ _ = rest := by simpa using h
      exact Nat.zero_le _
    · next hnone =>
      obtain ⟨⟨before, rest'⟩, hcut, heq⟩ := Option.map_eq_some_iff.mp h
      obtain ⟨rfl, -⟩ : c :: before = _ ∧ rest' = rest := by simpa using heq
      cases b with
      | nil =>
        rw [hb, List.nil_append, after?_append] at hnone
        cases hnone
      | cons d b =>
        obtain ⟨-, hb⟩ : c = d ∧ text = b ++ piece ++ r := by simpa using hb
        exact Nat.succ_le_succ (ih hcut hb)

/-- A text is cut where the piece first occurs. -/
theorem cut?_eq_some_iff {piece text before rest : List Char} :
    cut? piece text = some (before, rest) ↔
      text = before ++ piece ++ rest ∧
        ∀ b r, text = b ++ piece ++ r → before.length ≤ b.length := by
  constructor
  · intro h
    exact ⟨eq_of_cut? h, fun b r hb => length_le_of_cut? h hb⟩
  · rintro ⟨rfl, hfirst⟩
    obtain ⟨⟨b, r⟩, hcut⟩ := exists_cut?_append piece before rest
    have hb := eq_of_cut? hcut
    have hlen : b.length = before.length :=
      Nat.le_antisymm (length_le_of_cut? hcut rfl) (hfirst b r hb)
    have hp : before = b ∧ piece ++ rest = piece ++ r :=
      List.append_inj (by simpa using hb) hlen.symm
    obtain ⟨rfl, hr⟩ := hp
    rw [hcut, List.append_cancel_left hr]

theorem cut?_append_of_notMem {mark : Char} {before : List Char} (h : mark ∉ before)
    (piece rest : List Char) :
    cut? (mark :: piece) (before ++ (mark :: piece) ++ rest) = some (before, rest) := by
  induction before with
  | nil =>
    simp only [List.nil_append, List.cons_append, cut?]
    rw [← List.cons_append, after?_append]
  | cons c before ih =>
    obtain ⟨hc, hbefore⟩ : mark ≠ c ∧ mark ∉ before := by simpa using h
    simp only [List.cons_append, cut?, after?_eq_none_of_ne hc]
    rw [ih hbefore]
    rfl

theorem cut?_eq_none_of_notMem {mark : Char} {text : List Char} (h : mark ∉ text)
    (piece : List Char) : cut? (mark :: piece) text = none := by
  rw [Option.eq_none_iff_forall_ne_some]
  rintro ⟨before, rest⟩ hcut
  rw [eq_of_cut? hcut] at h
  simp at h

/-- The piece occurs at the end of `text ++ piece` and nowhere before it. -/
def OnlyAtEnd (piece text : List Char) : Prop :=
  ∀ b r, text ++ piece = b ++ piece ++ r → r = []

theorem onlyAtEnd_iff_cut? {piece text : List Char} :
    OnlyAtEnd piece text ↔ cut? piece (text ++ piece) = some (text, []) := by
  rw [cut?_eq_some_iff]
  constructor
  · intro h
    refine ⟨by simp, ?_⟩
    intro b r hb
    have hlen := congrArg List.length hb
    simp [h b r hb] at hlen
    omega
  · rintro ⟨-, hfirst⟩ b r hb
    have hlen := congrArg List.length hb
    have hle := hfirst b r hb
    simp at hlen
    exact List.eq_nil_of_length_eq_zero (by omega)

instance (piece text : List Char) : Decidable (OnlyAtEnd piece text) :=
  decidable_of_iff _ onlyAtEnd_iff_cut?.symm

theorem onlyAtEnd_nil (piece : List Char) : OnlyAtEnd piece [] := by
  rw [onlyAtEnd_iff_cut?, cut?_eq_some_iff]
  exact ⟨by simp, fun b r _ => Nat.zero_le b.length⟩

/-- A separator that is first met at its own place cuts the text there, whatever is behind it. -/
theorem OnlyAtEnd.cut?_append {piece text : List Char} (h : OnlyAtEnd piece text)
    (rest : List Char) : cut? piece (text ++ piece ++ rest) = some (text, rest) := by
  refine cut?_eq_some_iff.mpr ⟨rfl, ?_⟩
  intro b r hb
  refine Nat.le_of_not_lt fun hlt => ?_
  -- An earlier occurrence ends within `text ++ piece`, so it is one of that text alone.
  have hshort : (b ++ piece).length ≤ (text ++ piece).length := by simp; omega
  have hprefix : b ++ piece <+: text ++ piece :=
    List.prefix_of_prefix_length_le ⟨r, hb.symm⟩ ⟨rest, rfl⟩ hshort
  obtain ⟨q, hq⟩ := hprefix
  have hlen := congrArg List.length hq
  simp [h b q hq.symm] at hlen
  omega

/-- Up to where a text is cut the piece occurs only at the end. -/
theorem onlyAtEnd_of_cut? {piece text before rest : List Char}
    (h : cut? piece text = some (before, rest)) : OnlyAtEnd piece before := by
  intro b r hocc
  have htext : text = b ++ piece ++ (r ++ rest) := by
    rw [eq_of_cut? h, hocc, List.append_assoc]
  have hfirst := length_le_of_cut? h htext
  have hlen := congrArg List.length hocc
  simp only [List.length_append] at hlen
  exact List.eq_nil_of_length_eq_zero (by omega)

theorem not_infix_of_cut? {piece text : List Char} (h : cut? piece text = none) :
    ¬ piece <:+: text := by
  rintro ⟨before, rest, rfl⟩
  obtain ⟨cut, hcut⟩ := exists_cut?_append piece before rest
  rw [h] at hcut
  cases hcut

theorem splitFrom_of_not_infix {piece : List Char} (current : List Char) {text : List Char}
    (h : ¬ piece <:+: text) : splitFrom piece current 0 text = [current.reverse ++ text] := by
  induction text generalizing current with
  | nil => simp [splitFrom]
  | cons c text ih =>
    have hp : piece.isPrefixOf (c :: text) = false := by
      rw [Bool.eq_false_iff]
      exact fun hp => h (List.isPrefixOf_iff_prefix.mp hp).isInfix
    have ht : ¬ piece <:+: text := fun ht => h (ht.trans (List.suffix_cons c text).isInfix)
    rw [splitFrom, hp, if_neg Bool.false_ne_true, ih (c :: current) ht]
    simp

theorem splitOn_of_not_infix {piece text : List Char} (h : ¬ piece <:+: text) :
    splitOn piece text = [text] :=
  splitFrom_of_not_infix [] h

/-- A piece with a mark in it that the text is free of is not met before its own place. -/
theorem onlyAtEnd_of_notMem {mark : Char} {before after text : List Char} (hb : mark ∉ before)
    (ha : mark ∉ after) (h : mark ∉ text) : OnlyAtEnd (before ++ mark :: after) text := by
  intro b r hocc
  have hmark : (text ++ before) ++ mark :: after = (b ++ before) ++ mark :: (after ++ r) := by
    simpa using hocc
  have hinj := (List.append_cons_inj_of_notMem (by simp [h, hb]) ha).mp hmark
  simpa using hinj.2.2

theorem splitFrom_pending (piece current passed text : List Char) :
    splitFrom piece current passed.length (passed ++ text) = splitFrom piece current 0 text := by
  induction passed with
  | nil => rfl
  | cons c passed ih => exact ih

/-- The first of the pieces is the text before the cut. -/
theorem splitFrom_of_cut? {piece text before rest : List Char} (hne : piece ≠ [])
    (h : cut? piece text = some (before, rest)) (current : List Char) :
    splitFrom piece current 0 text = (current.reverse ++ before) :: splitOn piece rest := by
  induction text generalizing before current with
  | nil => simp [cut?, hne] at h
  | cons c text ih =>
    unfold cut? at h
    split at h
    · next r hr =>
      obtain ⟨rfl, rfl⟩ : [] = before ∧ r = rest := by simpa using h
      have htext := after?_eq_some_iff.mp hr
      have hp : piece.isPrefixOf (c :: text) = true := List.isPrefixOf_iff_prefix.mpr ⟨r, htext.symm⟩
      obtain ⟨p, passed, rfl⟩ := List.exists_cons_of_ne_nil hne
      obtain ⟨rfl, rfl⟩ : c = p ∧ text = passed ++ r := by simpa using htext
      rw [splitFrom, if_pos hp, List.append_nil]
      exact congrArg _ (splitFrom_pending (c :: passed) [] passed r)
    · next hr =>
      obtain ⟨⟨before, rest'⟩, hcut, heq⟩ := Option.map_eq_some_iff.mp h
      obtain ⟨rfl, rfl⟩ : c :: before = _ ∧ rest' = rest := by simpa using heq
      have hp : piece.isPrefixOf (c :: text) = false := by
        rw [Bool.eq_false_iff]
        intro hp
        obtain ⟨r, hr'⟩ := List.isPrefixOf_iff_prefix.mp hp
        rw [← hr', after?_append] at hr
        cases hr
      rw [splitFrom, if_neg (by simp [hp]), ih hcut (c :: current)]
      simp

/-- Texts that are free of a mark are found again between the pieces that the mark stands in. -/
theorem splitOn_joinWith {mark : Char} {before after : List Char} (hb : mark ∉ before)
    (ha : mark ∉ after) {texts : List (List Char)} (hne : texts ≠ [])
    (h : ∀ text ∈ texts, mark ∉ text) :
    splitOn (before ++ mark :: after) (joinWith (before ++ mark :: after) texts) = texts := by
  induction texts with
  | nil => exact absurd rfl hne
  | cons text texts ih =>
    obtain ⟨htext, htexts⟩ := List.forall_mem_cons.mp h
    cases texts with
    | nil =>
      refine splitOn_of_not_infix fun hin => htext (hin.subset ?_)
      exact List.mem_append_right before List.mem_cons_self
    | cons other texts =>
      have hcut := (onlyAtEnd_of_notMem hb ha htext).cut?_append
        (joinWith (before ++ mark :: after) (other :: texts))
      have hsplit := splitFrom_of_cut? (by simp) hcut []
      rw [ih (List.cons_ne_nil other texts) htexts] at hsplit
      exact hsplit

theorem trim_eq_self {text : List Char} (hhead : ∀ c ∈ text.head?, isBlank c = false)
    (hlast : ∀ c ∈ text.getLast?, isBlank c = false) : trim text = text := by
  have hl : trimLeft text = text := by
    cases text with
    | nil => rfl
    | cons c text => simp [trimLeft, hhead c rfl]
  rw [trim, hl, trimRight]
  cases hr : text.reverse with
  | nil => rw [List.reverse_eq_nil_iff.mp hr]; rfl
  | cons d rest =>
    have hd : isBlank d = false := hlast d (by rw [List.getLast?_eq_head?_reverse, hr]; rfl)
    rw [List.dropWhile_cons_of_neg (by simp [hd]), ← hr, List.reverse_reverse]

end ServiceAtlas.Text
