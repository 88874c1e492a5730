/-
# Changes of a tree of files

What a program does to a tree of files changes one or two places.  A path that was open stays
open as long as the directories stay; so what it reads afterwards is what is then at the place
that it leads to.  This file says for each operation what it changes, and for reading what it
depends on.
-/
import Mathlib
import Deprecation.Proofs.Files.Path

namespace Deprecation
namespace FileTree

variable {t t' : FileTree} {p q : Place} {path name : String} {l : List String}

lemma isDirectoryAt_iff : t.isDirectoryAt p = true ↔ t.find? p = some .directory := by
  rw [isDirectoryAt]
  cases t.find? p with
  | none => simp
  | some n => cases n <;> simp

lemma ne_nil_of_not_directory (h : t.find? p ≠ some .directory) : p ≠ [] := by
  rintro rfl
  exact h rfl

/-! ## Trees that keep what another one has -/

/-- The directories of a tree are directories of another one, too. -/
structure KeepsDirectories (t t' : FileTree) : Prop where
  working : t'.working = t.working
  directories : ∀ p, t.find? p = some .directory → t'.find? p = some .directory

/-- Whatever is in a tree is in another one, too. -/
structure Extends (t t' : FileTree) : Prop where
  working : t'.working = t.working
  nodes : ∀ p n, t.find? p = some n → t'.find? p = some n

lemma KeepsDirectories.trans {u : FileTree} (htt' : t.KeepsDirectories t')
    (hu : t'.KeepsDirectories u) : t.KeepsDirectories u where
  working := hu.working.trans htt'.working
  directories := fun p hp => hu.directories p (htt'.directories p hp)

lemma Extends.refl (t : FileTree) : t.Extends t where
  working := rfl
  nodes := fun _ _ h => h

lemma Extends.trans {u : FileTree} (htt' : t.Extends t') (hu : t'.Extends u) : t.Extends u where
  working := hu.working.trans htt'.working
  nodes := fun p n hp => hu.nodes p n (htt'.nodes p n hp)

lemma Extends.keepsDirectories (h : t.Extends t') : t.KeepsDirectories t' where
  working := h.working
  directories := fun p hp => h.nodes p _ hp

lemma extends_put (hp : t.find? p = none) (n : FileNode) : t.Extends (t.put p n) where
  working := rfl
  nodes := by
    intro q m hq
    have hroot : p ≠ [] := by
      rintro rfl
      cases hp
    rw [find?_put t p q n hroot, if_neg]
    · exact hq
    · rintro rfl
      rw [hp] at hq
      cases hq

lemma keepsDirectories_put (hp : t.find? p ≠ some .directory) (n : FileNode) :
    t.KeepsDirectories (t.put p n) where
  working := rfl
  directories := by
    intro q hq
    rw [find?_put t p q n (ne_nil_of_not_directory hp), if_neg]
    · exact hq
    · rintro rfl
      exact hp hq

lemma keepsDirectories_clear (hp : t.find? p ≠ some .directory) :
    t.KeepsDirectories (t.clear p) where
  working := rfl
  directories := by
    intro q hq
    rw [find?_clear t p q (ne_nil_of_not_directory hp), if_neg]
    · exact hq
    · rintro rfl
      exact hp hq

/-! ## Following names -/

lemma follow_cons_of_not_directory (h : t.isDirectoryAt p = false) :
    t.follow p (name :: l) = .error .notADirectory := by
  rw [follow, h]
  rfl

lemma follow_cons_of_skipped (h : t.isDirectoryAt p = true) (hname : name = "" ∨ name = ".") :
    t.follow p (name :: l) = t.follow p l := by
  rw [follow, h, if_neg (by decide), if_pos hname]

lemma follow_cons_of_isName (h : t.isDirectoryAt p = true) (hname : IsName name) :
    t.follow p (name :: l) =
      if maxName < name.utf8ByteSize then .error .nameTooLong
      else if (t.find? (p ++ [name])).isNone then .error .notFound
      else t.follow (p ++ [name]) l := by
  rw [follow, h, if_neg (by decide), if_neg (not_or.mpr ⟨hname.1, hname.2.1⟩), if_neg hname.2.2]

lemma follow_cons_eq_ok_iff :
    t.follow p (name :: l) = .ok q ↔
      t.find? p = some .directory ∧
        (IsName name → name.utf8ByteSize ≤ maxName ∧ (t.find? (p ++ [name])).isSome) ∧
        t.follow (advance p name) l = .ok q := by
  rw [follow, advance, ← isDirectoryAt_iff, IsName]
  by_cases hdirectory : t.isDirectoryAt p = true
  · rw [hdirectory, Bool.not_true, if_neg Bool.false_ne_true]
    by_cases hskip : name = "" ∨ name = "."
    · rw [if_pos hskip, if_pos hskip]
      tauto
    by_cases hback : name = ".."
    · rw [if_neg hskip, if_neg hskip, if_pos hback, if_pos hback]
      tauto
    rw [if_neg hskip, if_neg hskip, if_neg hback, if_neg hback]
    by_cases hlong : maxName < name.utf8ByteSize
    · simp [hlong, not_or.mp hskip, hback]
    · cases t.find? (p ++ [name]) with
      | none => simp [hlong, not_or.mp hskip, hback]
      | some n => simp [hlong, not_or.mp hskip, hback, Nat.le_of_not_lt hlong]
  · simp [hdirectory]

/-- Names that can be followed lead to where they lead without looking at the files. -/
lemma follow_eq_walk (h : t.follow p l = .ok q) : q = walk p l := by
  induction l generalizing p with
  | nil =>
    cases h
    rfl
  | cons name l ih => exact ih (follow_cons_eq_ok_iff.mp h).2.2

lemma follow_append_eq_ok_iff {l' : List String} :
    t.follow p (l ++ l') = .ok q ↔ ∃ r, t.follow p l = .ok r ∧ t.follow r l' = .ok q := by
  induction l generalizing p with
  | nil => simp [follow]
  | cons name l ih =>
    simp only [List.cons_append, follow_cons_eq_ok_iff, ih]
    constructor
    · rintro ⟨hp, hname, r, hr, hq⟩
      exact ⟨r, ⟨hp, hname, hr⟩, hq⟩
    · rintro ⟨r, ⟨hp, hname, hr⟩, hq⟩
      exact ⟨hp, hname, r, hr, hq⟩

/-- Names that can be followed lead on from where they lead. -/
lemma follow_append_of_ok {l' : List String} (h : t.follow p l = .ok q) :
    t.follow p (l ++ l') = t.follow q l' := by
  induction l generalizing p with
  | nil =>
    cases h
    rfl
  | cons name l ih =>
    rw [follow] at h
    rw [List.cons_append, follow]
    split_ifs at h ⊢ <;> exact ih h

/-- A way stays open as long as the directories on it stay and there is something at its end. -/
lemma follow_of_keeps (hkeep : t.KeepsDirectories t') (h : t.follow p l = .ok q)
    (hend : (t'.find? q).isSome) : t'.follow p l = .ok q := by
  induction l generalizing p with
  | nil => exact h
  | cons name l ih =>
    obtain ⟨hp, hname, hrest⟩ := follow_cons_eq_ok_iff.mp h
    refine follow_cons_eq_ok_iff.mpr ⟨hkeep.directories p hp, ?_, ih hrest⟩
    intro hisname
    refine ⟨(hname hisname).1, ?_⟩
    rw [advance_of_isName hisname] at hrest
    -- the name is either the last one, or that of a directory
    cases l with
    | nil =>
      cases hrest
      exact hend
    | cons next l =>
      rw [hkeep.directories _ (follow_cons_eq_ok_iff.mp hrest).1]
      rfl

/-! ## Reading -/

lemma place_eq_ok_iff :
    t.place path = .ok p ↔
      checkPath path = .ok () ∧ t.follow (t.start path) (names path) = .ok p := by
  rw [place]
  cases checkPath path with
  | error e => simp [bind, Except.bind]
  | ok u => simp [bind, Except.bind]

lemma read_eq_ok_iff {bytes : ByteArray} :
    t.read path = .ok bytes ↔
      t.place path = .ok (leadsTo t.working path) ∧
        t.find? (leadsTo t.working path) = some (.file bytes) := by
  rw [read]
  cases hplace : t.place path with
  | error e => simp [bind, Except.bind]
  | ok p =>
    have hp : p = leadsTo t.working path := follow_eq_walk (place_eq_ok_iff.mp hplace).2
    subst hp
    simp only [bind, Except.bind, true_and]
    cases t.find? (leadsTo t.working path) with
    | none => simp
    | some n => cases n <;> simp

/-- A path that has led to a file reads whatever file is at its end then. -/
theorem read_of_keeps (hkeep : t.KeepsDirectories t') {old new : ByteArray}
    (hread : t.read path = .ok old)
    (hfind : t'.find? (leadsTo t.working path) = some (.file new)) : t'.read path = .ok new := by
  obtain ⟨hplace, -⟩ := read_eq_ok_iff.mp hread
  obtain ⟨hcheck, hfollow⟩ := place_eq_ok_iff.mp hplace
  have hstart : t'.start path = t.start path := by
    rw [start, start, hkeep.working]
  rw [read_eq_ok_iff, hkeep.working]
  refine ⟨place_eq_ok_iff.mpr ⟨hcheck, ?_⟩, hfind⟩
  rw [hstart]
  exact follow_of_keeps hkeep hfollow (by rw [hfind]; rfl)

/-! ## Targets -/

/-- A path that leads to a name in a directory, which is open; empty names may follow it. -/
structure Enters (t : FileTree) (path : String) (directory : Place) (name : String)
    (tail : List String) : Prop where
  check : checkPath path = .ok ()
  isName : IsName name
  short : name.utf8ByteSize ≤ maxName
  there : t.find? directory = some .directory
  tail_empty : ∀ x ∈ tail, x = ""
  names : ∃ before, names path = before ++ name :: tail ∧
    t.follow (t.start path) before = .ok directory

lemma enters_of_target {directory : Place} {name : String} {asDirectory : Bool}
    (h : t.target path = .ok (.entry directory name asDirectory)) :
    ∃ tail, t.Enters path directory name tail ∧ (asDirectory = false → tail = []) := by
  rw [target] at h
  cases hcheck : checkPath path with
  | error e =>
    rw [hcheck] at h
    cases h
  | ok u =>
    simp only [hcheck, bind, Except.bind] at h
    split at h
    · split at h <;> cases h
    next last before hdrop =>
    split at h
    · split at h <;> cases h
    next hspecial =>
    split at h
    · cases h
    next d hfollow =>
    split at h
    · cases h
    next hdirectory =>
    split at h
    · cases h
    next hshort =>
    cases h
    obtain ⟨hlast, tail, hnames, htail⟩ := split_at_dropWhile_reverse hdrop
    rw [not_or] at hspecial
    refine ⟨tail, ?_, ?_⟩
    · exact
        { check := hcheck
          isName := ⟨by simpa using hlast, hspecial⟩
          short := Nat.le_of_not_lt hshort
          there := isDirectoryAt_iff.mp (by simpa using hdirectory)
          tail_empty := fun x hx => by simpa using htail x hx
          names := ⟨before.reverse, hnames, hfollow⟩ }
    · -- a slash at the end would be an empty last name
      intro hfile
      cases hrev : tail.reverse with
      | nil => exact List.reverse_eq_nil_iff.mp hrev
      | cons x rest =>
        have hx : x = "" := by
          simpa using htail x (List.mem_reverse.mp (hrev ▸ List.mem_cons_self))
        rw [hnames, List.reverse_append, List.reverse_cons, hrev, hx] at hfile
        simp at hfile

namespace Enters

variable {directory : Place} {name : String} {tail : List String}

lemma leadsTo_eq (h : t.Enters path directory name tail) :
    leadsTo t.working path = directory ++ [name] := by
  obtain ⟨before, hnames, hfollow⟩ := h.names
  have htail : ∀ (p : Place) (l : List String), (∀ x ∈ l, x = "") → walk p l = p := by
    intro p l hl
    induction l with
    | nil => rfl
    | cons x l ih =>
      rw [hl x List.mem_cons_self]
      exact ih fun y hy => hl y (List.mem_cons_of_mem _ hy)
  have hstart : walk (t.start path) before = directory := (follow_eq_walk hfollow).symm
  rw [leadsTo, ← start, hnames, walk_append, walk_cons, htail _ _ h.tail_empty, hstart,
    advance_of_isName h.isName]

/-- The way starts at a directory. -/
lemma find?_start (h : t.Enters path directory name tail) :
    t.find? (t.start path) = some .directory := by
  obtain ⟨before, -, hfollow⟩ := h.names
  cases before with
  | nil =>
    cases hfollow
    exact h.there
  | cons x before => exact (follow_cons_eq_ok_iff.mp hfollow).1

/-- What is put where a path leads is read there. -/
lemma read_of_keeps (h : t.Enters path directory name []) (hkeep : t.KeepsDirectories t')
    {bytes : ByteArray} (hfind : t'.find? (leadsTo t.working path) = some (.file bytes)) :
    t'.read path = .ok bytes := by
  have hstart : t'.start path = t.start path := by
    rw [start, start, hkeep.working]
  obtain ⟨before, hnames, hfollow⟩ := h.names
  rw [read_eq_ok_iff, hkeep.working]
  refine ⟨place_eq_ok_iff.mpr ⟨h.check, ?_⟩, hfind⟩
  rw [h.leadsTo_eq] at hfind ⊢
  have hthere := hkeep.directories _ h.there
  rw [hstart, hnames, follow_append_eq_ok_iff]
  refine ⟨directory, follow_of_keeps hkeep hfollow (by rw [hthere]; rfl), ?_⟩
  refine follow_cons_eq_ok_iff.mpr ⟨hthere, fun _ => ⟨h.short, by rw [hfind]; rfl⟩, ?_⟩
  rw [advance_of_isName h.isName]
  rfl

end Enters

/-! ## Operations -/

/-- A file that is written is put where its path leads. -/
lemma write_eq_ok {bytes : ByteArray} (h : t.write path bytes = .ok t') :
    t.find? (leadsTo t.working path) ≠ some .directory ∧
      t' = t.put (leadsTo t.working path) (.file bytes) := by
  rw [write] at h
  cases htarget : t.target path with
  | error e =>
    rw [htarget] at h
    cases h
  | ok target =>
    simp only [htarget, bind, Except.bind] at h
    split at h
    · cases h
    · cases h
    next directory name =>
    obtain ⟨tail, henters, -⟩ := enters_of_target htarget
    split at h
    · cases h
    next hnot =>
    cases h
    rw [henters.leadsTo_eq]
    exact ⟨fun hd => hnot (isDirectoryAt_iff.mpr hd), rfl⟩

/-- A directory is made where nothing is, on a way that starts at a directory. -/
lemma makeDirectory_eq_ok (h : t.makeDirectory path = .ok t') :
    t.find? (t.start path) = some .directory ∧ t.find? (leadsTo t.working path) = none ∧
      t' = t.put (leadsTo t.working path) .directory := by
  rw [makeDirectory] at h
  cases htarget : t.target path with
  | error e =>
    rw [htarget] at h
    cases h
  | ok target =>
    simp only [htarget, bind, Except.bind] at h
    split at h
    · cases h
    next directory name asDirectory =>
    obtain ⟨tail, henters, -⟩ := enters_of_target htarget
    split at h
    · cases h
    next hnone =>
    cases h
    rw [henters.leadsTo_eq]
    exact ⟨henters.find?_start, by simpa using hnone, rfl⟩

lemma find?_clear_ne_directory (hp : t.find? p ≠ some .directory)
    (hq : t.find? q ≠ some .directory) : (t.clear p).find? q ≠ some .directory := by
  rw [find?_clear t p q (ne_nil_of_not_directory hp)]
  split
  · simp
  · exact hq

/-- A file that is moved is gone from one place and is read at the other. -/
lemma rename_eq_ok {old new : String} (h : t.rename old new = .ok t') :
    ∃ bytes, t.find? (leadsTo t.working old) = some (.file bytes) ∧
      t.find? (leadsTo t.working new) ≠ some .directory ∧
      t' = (t.clear (leadsTo t.working old)).put (leadsTo t.working new) (.file bytes) ∧
      t'.read new = .ok bytes := by
  rw [rename] at h
  cases hplace : t.place old with
  | error e =>
    rw [hplace] at h
    cases h
  | ok source =>
    obtain rfl : source = leadsTo t.working old := follow_eq_walk (place_eq_ok_iff.mp hplace).2
    simp only [hplace, bind, Except.bind] at h
    cases htarget : t.target new with
    | error e =>
      rw [htarget] at h
      cases h
    | ok target =>
      simp only [htarget] at h
      split at h
      next _ bytes directory name asDirectory hfind =>
        split at h
        · cases h
        next hfile =>
        split at h
        · cases h
        next hnot =>
        cases h
        obtain ⟨tail, henters, htail⟩ := enters_of_target htarget
        obtain rfl : tail = [] := htail (by simpa using hfile)
        have hold : t.find? (leadsTo t.working old) ≠ some .directory := by
          rw [hfind]
          simp
        have hnew : t.find? (leadsTo t.working new) ≠ some .directory := by
          rw [henters.leadsTo_eq]
          exact fun hd => hnot (isDirectoryAt_iff.mpr hd)
        rw [← henters.leadsTo_eq]
        refine ⟨bytes, hfind, hnew, rfl, henters.read_of_keeps ?_ ?_⟩
        · exact (keepsDirectories_clear hold).trans
            (keepsDirectories_put (find?_clear_ne_directory hold hnew) _)
        · rw [find?_put _ _ _ _ (ne_nil_of_not_directory hnew), if_pos rfl]
      all_goals cases h

end FileTree
end Deprecation
