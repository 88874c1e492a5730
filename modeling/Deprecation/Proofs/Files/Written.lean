/-
# Files that can be written

A file can be written where a path ends with a name in a directory, unless a directory has this
name.  The path then has a parent, and the parent leads to the directory of the file.  The file is
read at its path as it was written.
-/
import Mathlib
import Deprecation.Proofs.Files.Listing

namespace Deprecation

namespace FileTree

variable {t : FileTree} {path : String}

/-- The name that a path enters a directory with is its last name. -/
lemma Enters.fileName {directory : Place} {name : String} (h : t.Enters path directory name []) :
    Path.fileName path = some name := by
  obtain ⟨before, hnames, -⟩ := h.names
  obtain ⟨ps, last, hpieces, -, hname⟩ := List.map_eq_append_iff.mp hnames
  obtain ⟨p, rfl, rfl⟩ := List.map_eq_singleton_iff.mp hname
  have hnot : Path.isSkipped p = false := by
    rw [← Bool.not_eq_true, ← String.toList_ofList (l := p), isSkipped_toList_iff]
    exact not_or.mpr ⟨h.isName.1, h.isName.2.1⟩
  have hlast : p ≠ ['.', '.'] := by
    rintro rfl
    exact h.isName.2.2 rfl
  refine Path.fileName_of_getLast? ?_ hlast
  rw [Path.steps, hpieces, List.filter_append, List.filter_cons_of_pos (by simp [hnot]),
    List.filter_nil, List.getLast?_concat]

/-! ## Writing -/

/-- A file can be written at a path. -/
def Writable (t : FileTree) (path : String) : Prop :=
  ∃ directory name, t.target path = .ok (.entry directory name false) ∧
    t.isDirectoryAt (directory ++ [name]) = false

/-- A file is written just where it can be, whatever its bytes are. -/
theorem exists_write_iff {bytes : ByteArray} :
    (∃ t', t.write path bytes = .ok t') ↔ t.Writable path := by
  constructor
  · rintro ⟨t', h⟩
    rw [write] at h
    cases htarget : t.target path with
    | error e =>
      rw [htarget] at h
      cases h
    | ok target =>
      simp only [htarget, bind, Except.bind] at h
      split at h
      · cases h
      · cases h
      next directory name =>
      split at h
      · cases h
      next hnot => exact ⟨directory, name, htarget, by simpa using hnot⟩
  · rintro ⟨directory, name, htarget, hnot⟩
    refine ⟨t.put (directory ++ [name]) (.file bytes), ?_⟩
    simp [write, htarget, hnot, bind, Except.bind]

namespace Writable

/-- **A written file is read.** -/
theorem exists_write (h : t.Writable path) (bytes : ByteArray) :
    ∃ t', t.write path bytes = .ok t' ∧ t'.read path = .ok bytes := by
  obtain ⟨t', hwrite⟩ : ∃ t', t.write path bytes = .ok t' := exists_write_iff.mpr h
  obtain ⟨directory, name, htarget, -⟩ := h
  obtain ⟨tail, henters, htail⟩ := enters_of_target htarget
  obtain rfl : tail = [] := htail rfl
  obtain ⟨hnot, rfl⟩ := write_eq_ok hwrite
  refine ⟨_, hwrite, henters.read_of_keeps (keepsDirectories_put hnot _) ?_⟩
  rw [find?_put _ _ _ _ (ne_nil_of_not_directory hnot), if_pos rfl]

/-- The parent of the path leads to the directory of the file. -/
theorem exists_parent (h : t.Writable path) :
    ∃ root name, Path.parent path = some root ∧ Path.fileName path = some name ∧
      leadsTo t.working path = leadsTo t.working root ++ [name] := by
  obtain ⟨directory, name, htarget, -⟩ := h
  obtain ⟨tail, henters, htail⟩ := enters_of_target htarget
  obtain rfl : tail = [] := htail rfl
  obtain ⟨root, hroot, hleads⟩ := exists_parent_of_fileName henters.fileName
  exact ⟨root, name, hroot, henters.fileName, hleads t.working⟩

end Writable

end FileTree

end Deprecation
