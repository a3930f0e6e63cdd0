import ServiceAtlas.Extract.Walk
import ServiceAtlas.Files.Access
import ServiceAtlas.Proofs.Results

/-!
# Templates and documents in files

What a file system that stays as it is must answer for a file to be a template, and for a document
in a file to be extracted. Only the answers for that file count.
-/
namespace ServiceAtlas

open Files (FileSystem Path)

/-- Two file systems that say the same of a path. -/
def Files.FileSystem.AgreesAt (fs fs' : FileSystem Id) (path : Path) : Prop :=
  fs'.isFile path = fs.isFile path ∧ fs'.info path = fs.info path ∧ fs'.read path = fs.read path

namespace Template

variable {t : Template} {fs fs' : FileSystem Id} {path : Path} {sizeLimit : Nat} {r : Record}

/-- A file that can be read and compiled to a template. -/
def IsAt (t : Template) (fs : FileSystem Id) (path : Path) : Prop :=
  ∃ bytes, (fs.read path).run = .ok bytes ∧ ofBytes bytes = .ok t

/-- A document that is within the limit, can be read and is extracted without an error. -/
def Extracts (t : Template) (sizeLimit : Nat) (fs : FileSystem Id) (path : Path) (r : Record) :
    Prop :=
  ∃ info bytes, (fs.info path).run = .ok info ∧ info.size ≤ sizeLimit ∧
    (fs.read path).run = .ok bytes ∧ t.extract bytes = .ok r

theorem IsAt.unique {t' : Template} (h : t.IsAt fs path) (h' : t'.IsAt fs path) : t = t' := by
  obtain ⟨bytes, hread, ht⟩ := h
  obtain ⟨bytes', hread', ht'⟩ := h'
  obtain rfl := Except.ok.inj (hread.symm.trans hread')
  exact Except.ok.inj (ht.symm.trans ht')

theorem isAt_congr (h : fs'.read path = fs.read path) : t.IsAt fs' path ↔ t.IsAt fs path := by
  rw [IsAt, IsAt, h]

theorem not_isAt_of_read_eq_error {error : Files.FileError}
    (h : (fs.read path).run = .error error) : ¬ t.IsAt fs path := by
  rintro ⟨bytes, hread, -⟩
  rw [h] at hread
  cases hread

theorem not_extracts_of_toOption_eq_none {bytes : Text.Bytes}
    (hread : (fs.read path).run = .ok bytes) (h : (t.extract bytes).toOption = none) :
    ¬ t.Extracts sizeLimit fs path r := by
  rintro ⟨info, bytes', -, -, hread', hr⟩
  obtain rfl := Except.ok.inj (hread.symm.trans hread')
  rw [hr] at h
  cases h

theorem extracts_congr (hinfo : fs'.info path = fs.info path)
    (hread : fs'.read path = fs.read path) :
    t.Extracts sizeLimit fs' path r ↔ t.Extracts sizeLimit fs path r := by
  rw [Extracts, Extracts, hinfo, hread]

end Template
end ServiceAtlas
