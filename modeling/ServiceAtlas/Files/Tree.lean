import ServiceAtlas.Files.Listing

/-!
# Trees of directories

A file system of the usual kind: a path is walked piece by piece from the root or from the working
directory, `..` leads up, and every piece but the last must lead to a directory.
-/
namespace ServiceAtlas.Files

structure Tree where
  workingDirectory : Place
  listing : Listing
deriving Repr

namespace Tree

/-- A tree with nothing but its working directory. -/
def empty (workingDirectory : Place) : Tree :=
  ⟨workingDirectory, Listing.empty.addDirectory workingDirectory⟩

/-- The place of a path below the working directory that does not lead up. -/
def placeBelow (t : Tree) (p : Path) : Place :=
  t.workingDirectory ++ p.pieces.filter Path.isComponent

def addFile (t : Tree) (p : Path) (content : Text.Bytes) : Tree :=
  { t with listing := t.listing.addFile (t.placeBelow p) content }

def addDirectory (t : Tree) (p : Path) : Tree :=
  { t with listing := t.listing.addDirectory (t.placeBelow p) }

def entryAt? (t : Tree) (place : Place) : Option Entry :=
  if place.isEmpty then some .directory else t.listing.get? place

/-- How many bytes a directory itself takes. -/
def directorySize : Nat := 4096

/-- How many bytes a name may have. -/
def maxNameSize : Nat := 255

/-- How many bytes a path may have. -/
def maxPathSize : Nat := 4095

/-- One step of a walk. -/
def step (t : Tree) (place : Place) (piece : Component) : Except SystemFault Place :=
  match t.entryAt? place with
  | none => .error .missing
  | some (.file _) => .error .notDirectory
  | some .directory =>
    if !Path.isComponent piece then .ok place
    else if piece = ['.', '.'] then .ok place.dropLast
    else if maxNameSize < (String.ofList piece).utf8ByteSize then .error .nameTooLong
    else if (t.entryAt? (place ++ [piece])).isSome then .ok (place ++ [piece])
    else .error .missing

def find (t : Tree) (p : Path) : Except SystemFault Entry := do
  if '\x00' ∈ p.text.toList then throw .nulCharacter
  if p.isEmpty then throw .missing
  if maxPathSize < p.text.utf8ByteSize then throw .nameTooLong
  let place ← p.pieces.foldlM t.step (if p.isAbsolute then [] else t.workingDirectory)
  match t.entryAt? place with
  | some entry => return entry
  | none => throw .missing

def isFile (t : Tree) (p : Path) : Bool :=
  match t.find p with
  | .ok (.file _) => true
  | _ => false

def info (t : Tree) (p : Path) : Except FileError FileInfo :=
  match t.find p with
  | .ok (.file content) => .ok ⟨content.length, .file⟩
  | .ok .directory => .ok ⟨directorySize, .directory⟩
  | .error fault => .error (.infoRefused p fault)

def read (t : Tree) (p : Path) : Except FileError Text.Bytes :=
  match t.find p with
  | .ok (.file content) => .ok content
  | .ok .directory => .error (.readRefused p .isDirectory)
  | .error fault => .error (.readRefused p fault)

def fileSystem (t : Tree) : FileSystem Id where
  isThere p := (t.find p).toBool
  isFile := t.isFile
  info := t.info
  read := t.read

example : ((empty [['w']]).addFile ⟨"a/b"⟩ [1]).read ⟨"a/../a//b"⟩ = .ok [1] := rfl
example : ((empty [['w']]).addFile ⟨"a/b"⟩ [1]).read ⟨"a/b/"⟩
    = .error (.readRefused ⟨"a/b/"⟩ .notDirectory) := rfl

end Tree
end ServiceAtlas.Files
