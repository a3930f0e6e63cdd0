import ServiceAtlas.Files.Listing

/-!
# Stores

A file system held in memory in which a path stands for its components, `..` among them: nothing is
walked. Relative paths lie under the root of the store.
-/
namespace ServiceAtlas.Files

structure Store where
  root : Path
  listing : Listing
deriving Repr

namespace Store

def empty (root : Path) : Store := ⟨root, .empty⟩

/-- The root of a store where no other is asked for. -/
def standardRoot : Path := ⟨"/mock"⟩

def place (s : Store) (p : Path) : Place := (s.root.join p).components

def entry? (s : Store) (p : Path) : Option Entry := s.listing.get? (s.place p)

def addFile (s : Store) (p : Path) (content : Text.Bytes) : Store :=
  { s with listing := s.listing.addFile (s.place p) content }

def addDirectory (s : Store) (p : Path) : Store :=
  { s with listing := s.listing.addDirectory (s.place p) }

def isFile (s : Store) (p : Path) : Bool :=
  match s.entry? p with
  | some (.file _) => true
  | _ => false

def info (s : Store) (p : Path) : Except FileError FileInfo :=
  match s.entry? p with
  | some (.file content) => .ok ⟨content.length, .file⟩
  | some .directory => .ok ⟨0, .directory⟩
  | none => .error (.pathNotFound p)

def read (s : Store) (p : Path) : Except FileError Text.Bytes :=
  match s.entry? p with
  | some (.file content) => .ok content
  | some .directory => .error (.notAFile p)
  | none => .error (.fileNotFound p)

def fileSystem (s : Store) : FileSystem Id where
  isThere p := (s.entry? p).isSome
  isFile := s.isFile
  info := s.info
  read := s.read

example : ((empty ⟨"/r"⟩).addFile ⟨"a//b"⟩ [1]).read ⟨"./a/b/"⟩ = .ok [1] := rfl
example : ((empty ⟨"/r"⟩).addFile ⟨"a/b"⟩ [1]).info ⟨"/r/a"⟩ = .ok ⟨0, .directory⟩ := rfl

end Store
end ServiceAtlas.Files
