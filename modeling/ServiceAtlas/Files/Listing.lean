import ServiceAtlas.Files.Access

/-!
# Listings

The entries of a file system held in memory, each at its place. A file brings the directories above
it along. The last file put at a place stays there; a directory never takes the place of a file.
-/
namespace ServiceAtlas.Files

inductive Entry where
  | file (content : Text.Bytes)
  | directory
deriving DecidableEq, Repr

/-- The components on the way from the top. -/
abbrev Place := List Component

/-- The places on the way to a place and the place itself. -/
def placesTo : Place → List Place
  | [] => []
  | c :: place => [c] :: (placesTo place).map (c :: ·)

/-- Entries at their places, the last put first. -/
structure Listing where
  entries : List (Place × Entry)
deriving Repr

namespace Listing

def empty : Listing := ⟨[]⟩

def get? (l : Listing) (place : Place) : Option Entry := l.entries.lookup place

def put (l : Listing) (place : Place) (entry : Entry) : Listing := ⟨(place, entry) :: l.entries⟩

@[simp] theorem get?_empty (place : Place) : empty.get? place = none := rfl

@[simp] theorem get?_put (l : Listing) (place other : Place) (entry : Entry) :
    (l.put place entry).get? other = if other = place then some entry else l.get? other := by
  by_cases h : other = place
  · simp [get?, put, h]
  · simp [get?, put, List.lookup_cons, beq_false_of_ne h, h]

/-- Puts a directory where there is nothing yet. -/
def putDirectory (l : Listing) (place : Place) : Listing :=
  match l.get? place with
  | some _ => l
  | none => l.put place .directory

theorem get?_putDirectory (l : Listing) (place other : Place) :
    (l.putDirectory place).get? other
      = if other = place then some ((l.get? place).getD .directory) else l.get? other := by
  unfold putDirectory
  split <;> by_cases h : other = place <;> simp_all

/-- Puts a directory at the place and at each place on the way to it. -/
def addDirectory (l : Listing) (place : Place) : Listing := (placesTo place).foldl putDirectory l

def addFile (l : Listing) (place : Place) (content : Text.Bytes) : Listing :=
  (l.addDirectory place.dropLast).put place (.file content)

end Listing
end ServiceAtlas.Files
