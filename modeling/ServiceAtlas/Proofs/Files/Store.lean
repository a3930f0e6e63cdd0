import ServiceAtlas.Files.Store

/-!
# Answers of stores

A store answers every question about a path from the one entry that stands there, so that its
answers never contradict each other.
-/
namespace ServiceAtlas.Files.Store

variable {s : Store} {p : Path} {content : Text.Bytes}

theorem isFile_iff : s.isFile p = true ↔ ∃ content, s.entry? p = some (.file content) := by
  rw [isFile]
  split <;> simp_all

theorem read_eq_ok_iff : s.read p = .ok content ↔ s.entry? p = some (.file content) := by
  rw [read]
  split <;> simp_all

theorem read_eq_error_iff :
    (∃ error, s.read p = .error error) ↔ ∀ content, s.entry? p ≠ some (.file content) := by
  rw [read]
  split <;> simp_all

theorem isFile_info_iff :
    (∃ info, s.info p = .ok info ∧ info.isFile = true) ↔
      ∃ content, s.entry? p = some (.file content) := by
  rw [info]
  split <;> simp_all [FileInfo.isFile]

theorem info_of_file (h : s.entry? p = some (.file content)) :
    s.info p = .ok ⟨content.length, .file⟩ := by
  rw [info, h]

end ServiceAtlas.Files.Store
