/-
# Keeping a snapshot

Keeping a snapshot takes several steps on the disk, and each of them may fail.  It ends in one
of three ways: nothing was written, the snapshot was written beside its place alone, or it is
in its place.  So what is read at its place is the new snapshot if keeping it succeeds and the
old one if not, and no file but these two is touched.
-/
import Mathlib
import Deprecation.Proofs.Files.Disk

namespace Deprecation

open FileTree

/-- What a snapshot file of a tree holds. -/
def FileTree.snapshotAt (t : FileTree) (path : String) : Except MediumError (Option ByteArray) :=
  match t.read path with
  | .ok bytes => .ok (some bytes)
  | .error .notFound => .ok none
  | .error e => .error (.file path e)

namespace SnapshotFile

lemma outcome_load (t : FileTree) (path : String) :
    outcome (load path) t = (t.snapshotAt path, t) := by
  have hread : outcome (ExceptT.lift (Disk.read path) :
      ExceptT MediumError (StateM FileTree) _) t = (.ok (t.read path), t) := rfl
  rw [load, outcome_bind, hread, snapshotAt]
  dsimp only
  cases t.read path with
  | ok bytes => rfl
  | error e => cases e <;> rfl

variable {t : FileTree} {path : String} {bytes old : ByteArray}

/-- How keeping a snapshot may end. -/
inductive Saved (t : FileTree) (path : String) (bytes : ByteArray) :
    Except MediumError Unit × FileTree → Prop
  /-- Nothing was written; directories may have been made. -/
  | unwritten (t₁ : FileTree) (e : MediumError) (hadds : t.Extends t₁) :
    Saved t path bytes (.error e, t₁)
  /-- The snapshot was written beside its place. -/
  | unmoved (t₁ : FileTree) (e : MediumError) (hadds : t.Extends t₁)
    (haside : t₁.find? (leadsTo t.working (temporary path)) ≠ some .directory) :
    Saved t path bytes (.error e, t₁.put (leadsTo t.working (temporary path)) (.file bytes))
  /-- The snapshot was written beside its place, and was moved to it. -/
  | moved (t₁ t₂ : FileTree) (hadds : t.Extends t₁)
    (haside : t₁.find? (leadsTo t.working (temporary path)) ≠ some .directory)
    (hplace : t₁.find? (leadsTo t.working path) ≠ some .directory)
    (heq : t₂ = ((t₁.put (leadsTo t.working (temporary path)) (.file bytes)).clear
      (leadsTo t.working (temporary path))).put (leadsTo t.working path) (.file bytes))
    (hread : t₂.read path = .ok bytes) : Saved t path bytes (.ok (), t₂)

lemma adds_makeParents (path : String) :
    Adds (makeParents path : ExceptT FileError (StateM FileTree) Unit) := by
  rw [makeParents]
  split
  · exact adds_makeDirectories _
  · exact adds_pure ()

/-- The steps of keeping a snapshot. -/
lemma outcome_save (t : FileTree) (path : String) (bytes : ByteArray) :
    outcome (save path bytes) t =
      match outcome (makeParents path) t with
      | (.error e, t₁) => (.error (.file path e), t₁)
      | (.ok (), t₁) =>
        match t₁.write (temporary path) bytes with
        | .error e => (.error (.file path e), t₁)
        | .ok t₂ =>
          match t₂.rename (temporary path) path with
          | .error e => (.error (.file path e), t₂)
          | .ok t₃ => (.ok (), t₃) := by
  rw [save, outcome_adapt, outcome_bind]
  generalize outcome (makeParents path) t = o
  rcases o with ⟨e | u, t₁⟩
  · rfl
  · have hwrite : outcome (writeAside path bytes) t₁ = _ :=
      outcome_change t₁ fun t => t.write (temporary path) bytes
    dsimp only
    rw [outcome_bind, hwrite]
    cases t₁.write (temporary path) bytes with
    | error e => rfl
    | ok t₂ =>
      have hmove : outcome (moveIntoPlace path) t₂ = _ :=
        outcome_change t₂ fun t => t.rename (temporary path) path
      dsimp only
      rw [hmove]
      cases t₂.rename (temporary path) path with
      | error e => rfl
      | ok t₃ => rfl

theorem saved_outcome (t : FileTree) (path : String) (bytes : ByteArray) :
    Saved t path bytes (outcome (save path bytes) t) := by
  rw [outcome_save]
  have hadds := adds_makeParents path t
  generalize outcome (makeParents path) t = o at hadds
  rcases o with ⟨e | u, t₁⟩
  · exact .unwritten t₁ _ hadds
  replace hadds : t.Extends t₁ := hadds
  dsimp only
  cases hwrite : t₁.write (temporary path) bytes with
  | error e => exact .unwritten t₁ _ hadds
  | ok t₂ =>
    obtain ⟨haside, rfl⟩ := write_eq_ok hwrite
    rw [hadds.working] at haside ⊢
    dsimp only
    cases hmove : (t₁.put (leadsTo t.working (temporary path)) (.file bytes)).rename
        (temporary path) path with
    | error e => exact .unmoved t₁ _ hadds haside
    | ok t₃ =>
      obtain ⟨moved, hfind, hplace, heq, hread⟩ := rename_eq_ok hmove
      have hworking : (t₁.put (leadsTo t.working (temporary path)) (.file bytes)).working
          = t.working := hadds.working
      have hne : leadsTo t.working path ≠ leadsTo t.working (temporary path) :=
        Ne.symm (leadsTo_temporary_ne t.working path)
      rw [hworking, find?_put _ _ _ _ (ne_nil_of_not_directory haside)] at hfind hplace
      rw [if_pos rfl, Option.some.injEq, FileNode.file.injEq] at hfind
      rw [if_neg hne] at hplace
      subst hfind
      rw [hworking] at heq
      exact .moved t₁ t₃ hadds haside hplace heq hread

/-! ## What is read afterwards -/

section Moved

variable {p q : Place} {n : FileNode}

/-- Putting a file at one place and then moving it to another one leaves all others. -/
lemma find?_moved (hp : t.find? p ≠ some .directory) (hq : t.find? q ≠ some .directory)
    (r : Place) : (((t.put p (.file bytes)).clear p).put q n).find? r
      = if r = q then some n else if r = p then none else t.find? r := by
  rw [find?_put _ _ _ _ (ne_nil_of_not_directory hq),
    find?_clear _ _ _ (ne_nil_of_not_directory hp), find?_put _ _ _ _ (ne_nil_of_not_directory hp)]
  split
  · rfl
  · split <;> rfl

lemma keepsDirectories_moved (hp : t.find? p ≠ some .directory)
    (hq : t.find? q ≠ some .directory) :
    t.KeepsDirectories (((t.put p (.file bytes)).clear p).put q n) where
  working := rfl
  directories := by
    intro r hr
    rw [find?_moved hp hq, if_neg, if_neg]
    · exact hr
    · rintro rfl
      exact hp hr
    · rintro rfl
      exact hq hr

end Moved

/-- A snapshot that was kept is read. -/
theorem read_of_save_ok (h : (outcome (save path bytes) t).1 = .ok ()) :
    (outcome (save path bytes) t).2.read path = .ok bytes := by
  have hsaved := saved_outcome t path bytes
  generalize outcome (save path bytes) t = o at hsaved h
  cases hsaved with
  | unwritten t₁ e => cases h
  | unmoved t₁ e => cases h
  | moved t₁ t₂ hadds haside hplace heq hread => exact hread

/-- The directories stay, and so does whatever is neither beside the place of the snapshot nor, if
the snapshot was kept, at that place. -/
lemma Saved.keeps {o : Except MediumError Unit × FileTree} (h : Saved t path bytes o) :
    t.KeepsDirectories o.2 ∧ ∀ q n, t.find? q = some n →
      q ≠ leadsTo t.working (temporary path) → (q = leadsTo t.working path → o.1 ≠ .ok ()) →
      o.2.find? q = some n := by
  cases h with
  | unwritten t₁ e hadds => exact ⟨hadds.keepsDirectories, fun q n hq _ _ => hadds.nodes q n hq⟩
  | unmoved t₁ e hadds hnot =>
    refine ⟨hadds.keepsDirectories.trans (keepsDirectories_put hnot _), ?_⟩
    intro q n hq haside _
    rw [find?_put _ _ _ _ (ne_nil_of_not_directory hnot), if_neg haside]
    exact hadds.nodes q n hq
  | moved t₁ t₂ hadds hnot hnot' heq =>
    subst heq
    refine ⟨hadds.keepsDirectories.trans (keepsDirectories_moved hnot hnot'), ?_⟩
    intro q n hq haside hplace
    have hother : q ≠ leadsTo t.working path := fun h => hplace h rfl
    rw [find?_moved hnot hnot', if_neg hother, if_neg haside]
    exact hadds.nodes q n hq

/-- Every path reads what it did before, unless it leads to the file beside the place of the
snapshot, or to that place and the snapshot was kept. -/
theorem read_of_save_other {other : String} (hread : t.read other = .ok old)
    (haside : leadsTo t.working other ≠ leadsTo t.working (temporary path))
    (hplace : leadsTo t.working other = leadsTo t.working path →
      (outcome (save path bytes) t).1 ≠ .ok ()) :
    (outcome (save path bytes) t).2.read other = .ok old := by
  obtain ⟨hkeep, hstays⟩ := (saved_outcome t path bytes).keeps
  exact read_of_keeps hkeep hread
    (hstays _ _ (read_eq_ok_iff.mp hread).2 haside hplace)

/-- A snapshot that could not be kept leaves the one before. -/
theorem read_of_save_error {e : MediumError} (h : (outcome (save path bytes) t).1 = .error e)
    (hread : t.read path = .ok old) : (outcome (save path bytes) t).2.read path = .ok old := by
  refine read_of_save_other hread (Ne.symm (leadsTo_temporary_ne t.working path)) ?_
  intro _ hok
  rw [h] at hok
  cases hok

end SnapshotFile
end Deprecation
