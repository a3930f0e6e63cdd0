import ServiceAtlas.Text.Cut
import ServiceAtlas.Text.Quoted

/-!
# Paths

A path keeps the text that it was written as, but is told from others by its components: repeated
and closing slashes and `.` count for nothing, save a `.` at the head of a relative path.
-/
namespace ServiceAtlas.Files

abbrev Component := List Char

structure Path where
  text : String
deriving DecidableEq, Repr

namespace Path

def isAbsolute (p : Path) : Bool := p.text.toList.head? = some '/'

def isEmpty (p : Path) : Bool := p.text.isEmpty

theorem isEmpty_iff {p : Path} : p.isEmpty ↔ p.text = "" := String.isEmpty_iff

/-- The path between double quotes, as messages show it. -/
def quoted (p : Path) : String := Text.quoted p.text

/-- What stands between the slashes. -/
def pieces (p : Path) : List Component := Text.splitAt '/' p.text.toList

/-- Whether a piece behind a slash is a component. -/
def isComponent (piece : Component) : Bool := piece ≠ [] && piece ≠ ['.']

/-- The root of absolute paths. -/
def rootComponent : Component := ['/']

def components (p : Path) : List Component :=
  match p.pieces with
  | [] | [[]] => []
  | [] :: pieces => rootComponent :: pieces.filter isComponent
  | head :: pieces => head :: pieces.filter isComponent

example : (Path.mk "./a//b/./..").components = [".", "a", "b", ".."].map String.toList := by decide

/-- The path `p` as seen from the directory `base`. -/
def join (base p : Path) : Path :=
  if p.isAbsolute then p
  else if base.isEmpty || base.text.toList.getLast? = some '/' then ⟨base.text ++ p.text⟩
  else ⟨base.text ++ "/" ++ p.text⟩

@[simp] theorem join_of_isAbsolute {base p : Path} (h : p.isAbsolute) : base.join p = p := by
  simp [join, h]

theorem text_join_ne_empty (base : Path) {p : Path} (h : p.text ≠ "") :
    (base.join p).text ≠ "" := by
  rw [join]
  split
  · exact h
  · split <;> simp [String.append_eq_empty_iff, h]

/-- Pieces without those at the end that are no components. -/
def trimPieces (pieces : List Component) : List Component :=
  (pieces.reverse.dropWhile fun piece => !isComponent piece).reverse

/-- The path without its last component; the root and the empty path have no parent. -/
def parent? (p : Path) : Option Path :=
  match p.pieces with
  | [] => none
  | head :: pieces =>
    match trimPieces pieces with
    | [] => if head.isEmpty then none else some ⟨""⟩
    | pieces =>
      match head, trimPieces pieces.dropLast with
      | [], [] => some ⟨"/"⟩
      | head, above => some ⟨String.ofList (Text.joinWith ['/'] (head :: above))⟩

example : (Path.mk "a//b/./c/").parent? = some ⟨"a//b"⟩ := by decide +kernel

end Path
end ServiceAtlas.Files
