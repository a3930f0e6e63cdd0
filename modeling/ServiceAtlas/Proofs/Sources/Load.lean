import ServiceAtlas.Proofs.Extract.Files
import ServiceAtlas.Sources.Load
import ServiceAtlas.Sources.Source

/-!
# Loading of sources

What must stand in a file for sources to be loaded from it, and what must stand in the file of a
template for its source to be ready to be used.
-/
namespace ServiceAtlas

open Files (FileSystem Path)

variable {fs : FileSystem Id} {path : Path}

theorem Files.FileSystem.readText_eq_ok_iff {text : String} :
    (fs.readText path).run = .ok text ↔
      ∃ bytes chars, (fs.read path).run = .ok bytes ∧ Text.decodeUtf8 bytes = .ok chars ∧
        String.ofList chars = text := by
  rw [readText, Id.run_bind]
  cases (fs.read path).run with
  | error error => simp
  | ok bytes => cases h : Text.decodeUtf8 bytes <;> simp [h]

namespace Sources

variable {s : Sources}

/-- Sources as they are meant in a file: templates that are not absolute lie beside it. -/
def seenFrom (s : Sources) (path : Path) : Sources := path.parent?.elim s s.within

/-- A file that can be read as text, with sources that can be parsed and validated. -/
def IsAt (s : Sources) (fs : FileSystem Id) (path : Path) : Prop :=
  ∃ bytes chars parsed, (fs.read path).run = .ok bytes ∧ Text.decodeUtf8 bytes = .ok chars ∧
    (Yaml.Document.ofText (String.ofList chars) >>= ofDocument) = .ok parsed ∧
    parsed.validate = .ok () ∧ parsed.seenFrom path = s

theorem ofText_eq_ok_iff {text : String} :
    ofText text = .ok s ↔
      (Yaml.Document.ofText text >>= ofDocument) = .ok s ∧ s.validate = .ok () := by
  rw [ofText]
  cases Yaml.Document.ofText text >>= ofDocument with
  | error error => simp
  | ok parsed =>
    dsimp only
    constructor
    · intro h
      split at h
      · cases h
      · next hvalid => exact ⟨congrArg _ (Except.ok.inj h), Except.ok.inj h ▸ hvalid⟩
    · rintro ⟨hparsed, hvalid⟩
      obtain rfl := Except.ok.inj hparsed
      simp only [hvalid]

theorem ofFile_eq_ok_iff {text : String} :
    ofFile path text = .ok s ↔ ∃ parsed, ofText text = .ok parsed ∧ parsed.seenFrom path = s := by
  rw [ofFile]
  cases ofText text with
  | error error => simp [Except.map]
  | ok parsed => cases h : path.parent? <;> simp [Except.map, seenFrom, h]

theorem load_eq_ok_iff : (load fs path).run = .ok s ↔ s.IsAt fs path := by
  have hload : (load fs path).run = .ok s ↔
      ∃ text, (fs.readText path).run = .ok text ∧ ofFile path text = .ok s := by
    rw [load, Id.run_bind]
    cases (fs.readText path).run <;> simp
  rw [hload]
  simp only [FileSystem.readText_eq_ok_iff, ofFile_eq_ok_iff, ofText_eq_ok_iff]
  constructor
  · rintro ⟨-, ⟨bytes, chars, hread, hdecode, rfl⟩, parsed, ⟨hparse, hvalid⟩, hseen⟩
    exact ⟨bytes, chars, parsed, hread, hdecode, hparse, hvalid, hseen⟩
  · rintro ⟨bytes, chars, parsed, hread, hdecode, hparse, hvalid, hseen⟩
    exact ⟨_, ⟨bytes, chars, hread, hdecode, rfl⟩, parsed, ⟨hparse, hvalid⟩, hseen⟩

end Sources

/-- A source is ready when the file of its template is one. -/
theorem Source.load_eq_ok_iff {s : Source} {sizeLimit : Nat} {entry : SourceEntry} :
    (load fs sizeLimit entry).run = .ok s ↔
      ∃ t : Template, t.IsAt fs entry.template ∧ ⟨entry.name, entry.weight, t, sizeLimit⟩ = s := by
  rw [load, Id.run_bind]
  simp only [Template.IsAt]
  cases (fs.read entry.template).run with
  | error error => simp
  | ok bytes => cases h : Template.ofBytes bytes <;> simp [h]

end ServiceAtlas
