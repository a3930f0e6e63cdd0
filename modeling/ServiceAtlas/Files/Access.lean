import ServiceAtlas.Files.Path
import ServiceAtlas.Text.Utf8

/-! What can be asked of a file system, and how it may refuse. -/
namespace ServiceAtlas.Files

inductive FileKind where
  | file
  | directory
  | other
deriving DecidableEq, Repr

/-- What is known of a file without reading it; `size` counts bytes. -/
structure FileInfo where
  size : Nat
  kind : FileKind
deriving DecidableEq, Repr

def FileInfo.isFile (i : FileInfo) : Bool := i.kind = .file

/-- Why an operating system refuses a path. -/
inductive SystemFault where
  | missing
  | forbidden
  | notDirectory
  | isDirectory
  | nameTooLong
  | nulCharacter
  | other (text : String)
deriving DecidableEq, Repr

def SystemFault.message : SystemFault → String
  | .missing => "No such file or directory (os error 2)"
  | .forbidden => "Permission denied (os error 13)"
  | .notDirectory => "Not a directory (os error 20)"
  | .isDirectory => "Is a directory (os error 21)"
  | .nameTooLong => "File name too long (os error 36)"
  | .nulCharacter => "file name contained an unexpected NUL byte"
  | .other text => text

inductive FileError where
  | pathNotFound (path : Path)
  | fileNotFound (path : Path)
  | notAFile (path : Path)
  | infoRefused (path : Path) (fault : SystemFault)
  | readRefused (path : Path) (fault : SystemFault)
  | notUtf8 (path : Path) (fault : Text.Utf8Fault)
deriving DecidableEq, Repr

namespace FileError

/-- The error without its cause. -/
def message : FileError → String
  | pathNotFound path => "Path not found: " ++ path.quoted
  | fileNotFound path => "File not found: " ++ path.quoted
  | notAFile path => "Not a file: " ++ path.quoted
  | infoRefused path _ => "Failed to get metadata for " ++ path.quoted
  | readRefused path _ => "Failed to read file " ++ path.quoted
  | notUtf8 path fault => path.quoted ++ " is not UTF-8: " ++ fault.message

/-- The error followed by its cause. -/
def fullMessage (e : FileError) : String :=
  match e with
  | infoRefused _ fault | readRefused _ fault => e.message ++ ": " ++ fault.message
  | _ => e.message

end FileError

/-- A file system as a table of answers, each given in the monad `m`. -/
structure FileSystem (m : Type → Type) where
  isThere : Path → m Bool
  isFile : Path → m Bool
  info : Path → m (Except FileError FileInfo)
  read : Path → m (Except FileError Text.Bytes)

/-- A file read as text. -/
def FileSystem.readText {m : Type → Type} [Monad m] (fs : FileSystem m) (path : Path) :
    m (Except FileError String) := do
  match ← fs.read path with
  | .error e => return .error e
  | .ok bytes =>
    match Text.decodeUtf8 bytes with
    | .ok text => return .ok (String.ofList text)
    | .error fault => return .error (.notUtf8 path fault)

end ServiceAtlas.Files
