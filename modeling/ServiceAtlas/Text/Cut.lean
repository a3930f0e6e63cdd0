/-! Cutting a text at a fixed piece of text. -/
namespace ServiceAtlas.Text

/-- What follows `head` in `text`, if `text` begins with it. -/
def after? : (head text : List Char) → Option (List Char)
  | [], text => some text
  | _ :: _, [] => none
  | h :: head, c :: text => if h = c then after? head text else none

theorem after?_eq_some_iff {head text rest : List Char} :
    after? head text = some rest ↔ text = head ++ rest := by
  induction head generalizing text with
  | nil => simp [after?, eq_comm]
  | cons h head ih =>
    cases text with
    | nil => simp [after?]
    | cons c text => by_cases hc : h = c <;> simp [after?, hc, ih, eq_comm (a := c)]

/-- What precedes `tail` in `text`, if `text` ends with it. -/
def before? (tail text : List Char) : Option (List Char) :=
  (after? tail.reverse text.reverse).map List.reverse

theorem before?_eq_some_iff {tail text rest : List Char} :
    before? tail text = some rest ↔ text = rest ++ tail := by
  simp only [before?, Option.map_eq_some_iff, after?_eq_some_iff]
  constructor
  · rintro ⟨r, h, rfl⟩
    rw [← List.reverse_reverse text, h]; simp
  · rintro rfl
    exact ⟨rest.reverse, by simp, by simp⟩

/-- The text before the first occurrence of `piece` and the text after it. -/
def cut? (piece : List Char) : List Char → Option (List Char × List Char)
  | [] => if piece.isEmpty then some ([], []) else none
  | c :: text =>
    match after? piece (c :: text) with
    | some rest => some ([], rest)
    | none => (cut? piece text).map fun (before, rest) => (c :: before, rest)

theorem eq_of_cut? {piece text before rest : List Char}
    (h : cut? piece text = some (before, rest)) : text = before ++ piece ++ rest := by
  induction text generalizing before with
  | nil => by_cases hp : piece = [] <;> simp_all [cut?]
  | cons c text ih =>
    unfold cut? at h
    split at h
    · next r hr =>
      obtain ⟨rfl, rfl⟩ : [] = before ∧ r = rest := by simpa using h
      simpa using after?_eq_some_iff.1 hr
    · obtain ⟨⟨b, r⟩, hb, hr⟩ := Option.map_eq_some_iff.1 h
      obtain ⟨rfl, rfl⟩ : c :: b = before ∧ r = rest := by simpa using hr
      simp [ih hb]

/-- The pieces between the occurrences of `mark`. -/
def splitAt (mark : Char) : List Char → List (List Char)
  | [] => [[]]
  | c :: text =>
    if c = mark then [] :: splitAt mark text
    else
      match splitAt mark text with
      | [] => [[c]]
      | piece :: pieces => (c :: piece) :: pieces

/-- The texts joined with `mark` between each two. -/
def joinWith (mark : List Char) : List (List Char) → List Char
  | [] => []
  | [piece] => piece
  | piece :: pieces => piece ++ mark ++ joinWith mark pieces

/-- The pieces between the occurrences of `piece`, taken from the left; `pending` characters of the
current occurrence are still to be passed over, and `piecesFrom` holds the characters of the
current piece, last first. -/
def splitFrom (piece : List Char) : (current : List Char) → (pending : Nat) → List Char →
    List (List Char)
  | current, _, [] => [current.reverse]
  | current, pending + 1, _ :: text => splitFrom piece current pending text
  | current, 0, c :: text =>
    if piece.isPrefixOf (c :: text) then
      current.reverse :: splitFrom piece [] (piece.length - 1) text
    else splitFrom piece (c :: current) 0 text

/-- The pieces between the occurrences of a text of at least one character. -/
def splitOn (piece text : List Char) : List (List Char) := splitFrom piece [] 0 text

example : splitOn " | ".toList "a | b || c | ".toList = ["a", "b || c", ""].map String.toList := by
  decide

end ServiceAtlas.Text
