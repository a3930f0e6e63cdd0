import ServiceAtlas.Text.Cut

/-! A text in pieces between marks, as the library cuts and joins it, and the place of the first
character that is not of a kind. -/
namespace ServiceAtlas.Text

theorem splitAt_eq_splitOn (mark : Char) (text : List Char) :
    splitAt mark text = text.splitOn mark := by
  induction text with
  | nil => rfl
  | cons c text ih =>
    rw [splitAt, ih, List.splitOn_cons_eq_if_modifyHead]
    by_cases h : c = mark
    · rw [if_pos h, if_pos (beq_iff_eq.mpr h)]
    · rw [if_neg h, if_neg (mt beq_iff_eq.mp h)]
      cases hs : text.splitOn mark with
      | nil => exact absurd hs (List.splitOn_ne_nil mark text)
      | cons piece pieces => rfl

theorem joinWith_eq_intercalate (mark : List Char) (pieces : List (List Char)) :
    joinWith mark pieces = mark.intercalate pieces := by
  induction pieces with
  | nil => rfl
  | cons piece pieces ih =>
    cases pieces with
    | nil => rw [joinWith, List.intercalate_singleton]
    | cons other pieces =>
      rw [joinWith, ih, List.intercalate_cons_cons]
      exact List.cons_ne_nil other pieces

theorem notMem_of_mem_splitOn {mark : Char} {text piece : List Char}
    (h : piece ∈ text.splitOn mark) : mark ∉ piece := by
  induction text generalizing piece with
  | nil =>
    obtain rfl : piece = [] := by simpa using h
    exact List.not_mem_nil
  | cons c text ih =>
    rw [List.splitOn_cons_eq_if_modifyHead] at h
    split at h
    · rcases List.mem_cons.mp h with rfl | h
      · exact List.not_mem_nil
      · exact ih h
    · next hc =>
      obtain ⟨first, pieces, hs⟩ := List.exists_cons_of_ne_nil (List.splitOn_ne_nil mark text)
      rw [hs, List.modifyHead_cons] at h
      rcases List.mem_cons.mp h with rfl | h
      · have hfirst : mark ∉ first := ih (hs ▸ List.mem_cons_self)
        rintro (_ | ⟨_, h⟩)
        · exact hc (beq_self_eq_true mark)
        · exact hfirst h
      · exact ih (hs ▸ List.mem_cons_of_mem first h)

section
variable {p : Char → Bool} {front : List Char} {c : Char} (hf : ∀ x ∈ front, p x = true)
  (hc : p c = false)
include hf hc

theorem takeWhile_append_cons (back : List Char) : (front ++ c :: back).takeWhile p = front := by
  rw [List.takeWhile_append_of_pos hf, List.takeWhile_cons_of_neg (by simp [hc]), List.append_nil]

theorem dropWhile_append_cons (back : List Char) :
    (front ++ c :: back).dropWhile p = c :: back := by
  rw [List.dropWhile_append_of_pos hf, List.dropWhile_cons_of_neg (by simp [hc])]

/-- A text is cut in one way where the characters in front are of a kind and the next one is not. -/
theorem append_cons_inj_of_forall {front' back back' : List Char} {d : Char}
    (hf' : ∀ x ∈ front', p x = true) (hd : p d = false)
    (h : front ++ c :: back = front' ++ d :: back') : front = front' ∧ c = d ∧ back = back' := by
  have hfront := takeWhile_append_cons hf hc back
  have hback := dropWhile_append_cons hf hc back
  rw [h, takeWhile_append_cons hf' hd] at hfront
  rw [h, dropWhile_append_cons hf' hd] at hback
  obtain ⟨rfl, rfl⟩ := List.cons.inj hback
  exact ⟨hfront.symm, rfl, rfl⟩

end

end ServiceAtlas.Text
