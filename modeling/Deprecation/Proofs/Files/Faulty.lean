/-
# Disks that fail

A disk may refuse an operation, and a program may be cut off: before an operation, in the middle
of it, or after it.  A file that was being written holds anything then; a directory is made or is
not, and a file is moved in one step or not at all.  The same programs that work on the files of a
computer are run here on a tree of files with a list of fates, one for each operation to come.

A program on such a disk either ends, with an outcome, or is cut off.  A last section says that
where nothing happens the program comes to what it comes to on the tree of files alone.
-/
import Mathlib
import Deprecation.Proofs.Files.Disk
import Deprecation.Proofs.Files.Parent
import Deprecation.Proofs.Files.Way

namespace Deprecation

/-- What becomes of an operation on a disk. -/
inductive Fate where
  /-- It is carried out, which may fail as the files are. -/
  | carriedOut
  /-- It fails.  A file that was to be written may hold anything afterwards. -/
  | refused (e : FileError) (left : Option ByteArray)
  /-- The program is cut off before the operation is done.  A file that was to be written may hold
  anything afterwards. -/
  | cutOff (left : Option ByteArray)
  /-- The operation is carried out, and then the program is cut off. -/
  | cutOffAfter

/-- A tree of files, and what becomes of the operations to come. -/
structure FaultyDisk where
  tree : FileTree
  /-- The fates of the next operations; those that come later are carried out. -/
  fates : List Fate
  /-- Whether a file has been moved. -/
  moved : Bool

/-- Programs on a disk that fails; one that is cut off gives nothing. -/
abbrev Risky : Type → Type := OptionT (StateM FaultyDisk)

namespace FaultyDisk

/-- The fate of the next operation. -/
def fate (d : FaultyDisk) : Fate := d.fates.headD .carriedOut

/-- The disk after the next operation, which has left a tree. -/
def next (d : FaultyDisk) (t : FileTree) : FaultyDisk := { d with tree := t, fates := d.fates.tail }

/-- An operation that is carried out, and the disk that it leaves. -/
def carryOut (f : FileTree → Except FileError FileTree) (moves : Bool) (d : FaultyDisk) :
    Except FileError Unit × FaultyDisk :=
  match f d.tree with
  | .ok t => (.ok (), { d.next t with moved := d.moved || moves })
  | .error e => (.error e, d.next d.tree)

/-- Changes the tree by an operation, which may leave something else behind when it is broken
off. -/
def change (f : FileTree → Except FileError FileTree)
    (broken : Option ByteArray → FileTree → FileTree) (moves : Bool) :
    Risky (Except FileError Unit) := fun d =>
  match d.fate with
  | .carriedOut => (some (d.carryOut f moves).1, (d.carryOut f moves).2)
  | .refused e left => (some (.error e), d.next (broken left d.tree))
  | .cutOff left => (none, d.next (broken left d.tree))
  | .cutOffAfter => (none, (d.carryOut f moves).2)

/-- Asks something about the tree. -/
def ask {α : Type} (f : FileTree → α) (failed : FileError → α) : Risky α := fun d =>
  match d.fate with
  | .carriedOut => (some (f d.tree), d.next d.tree)
  | .refused e _ => (some (failed e), d.next d.tree)
  | .cutOff _ | .cutOffAfter => (none, d.next d.tree)

/-- What is left of a file when writing it is broken off: the file as it was, or other bytes. -/
def brokenWrite (path : String) (left : Option ByteArray) (t : FileTree) : FileTree :=
  match left with
  | none => t
  | some bytes =>
    match t.write path bytes with
    | .ok t' => t'
    | .error _ => t

instance : Disk Risky where
  read path := ask (fun t => t.read path) .error
  write path bytes := change (fun t => t.write path bytes) (brokenWrite path) false
  makeDirectory path := change (fun t => t.makeDirectory path) (fun _ t => t) false
  rename old new := change (fun t => t.rename old new) (fun _ t => t) true
  isFile path := ask (fun t => t.isFile path) fun _ => false
  isDirectory path := ask (fun t => t.isDirectory path) fun _ => false
  files path depth := ask (fun t => t.files path depth) fun _ => []

/-- What a program comes to, if it is not cut off, and the disk that it leaves. -/
def run {ε α : Type} (x : ExceptT ε Risky α) (d : FaultyDisk) : Option (Except ε α) × FaultyDisk :=
  x.run.run d

section Run

variable {ε ε' α β : Type} (d : FaultyDisk)

/-- A program on a disk goes on unless it is cut off. -/
lemma risky_bind (x : Risky α) (f : α → Risky β) :
    (x >>= f).run d =
      match x.run d with
      | (some a, d') => (f a).run d'
      | (none, d') => (none, d') := by
  rw [OptionT.run_bind, Option.elimM]
  show (Option.elim (x.run d).1 (pure none) fun a => (f a).run : StateM FaultyDisk _)
    (x.run d).2 = _
  rcases x.run d with ⟨_ | _, d'⟩ <;> rfl

/-- One program and then another, unless the first one fails or is cut off. -/
lemma run_bind (x : ExceptT ε Risky α) (f : α → ExceptT ε Risky β) :
    run (x >>= f) d =
      match run x d with
      | (some (.ok a), d') => run (f a) d'
      | (some (.error e), d') => (some (.error e), d')
      | (none, d') => (none, d') := by
  show (x.run >>= ExceptT.bindCont f : Risky (Except ε β)).run d = _
  rw [risky_bind, run]
  rcases x.run.run d with ⟨_ | _ | _, d'⟩ <;> rfl

lemma run_adapt (f : ε → ε') (x : ExceptT ε Risky α) :
    run (ExceptT.adapt f x) d = ((run x d).1.map (Except.mapError f), (run x d).2) := by
  show (x.run >>= fun o => pure (o.mapError f) : Risky (Except ε' α)).run d = _
  rw [risky_bind, run]
  rcases x.run.run d with ⟨_ | _, d'⟩ <;> rfl

/-- An operation either is carried out or is broken off, and in either case the program may be cut
off then. -/
lemma change_cases (f : FileTree → Except FileError FileTree)
    (broken : Option ByteArray → FileTree → FileTree) (hbroken : ∀ t, broken none t = t)
    (moves : Bool) :
    (∃ t, f d.tree = .ok t ∧ (change f broken moves d).2.tree = t ∧
      (change f broken moves d).2.moved = (d.moved || moves) ∧
      ∀ e, (change f broken moves d).1 ≠ some (.error e)) ∨
    (∃ left, (change f broken moves d).2.tree = broken left d.tree ∧
      (change f broken moves d).2.moved = d.moved ∧
      (change f broken moves d).1 ≠ some (.ok ())) := by
  have hcarried : (∃ t, f d.tree = .ok t ∧ (d.carryOut f moves).2.tree = t ∧
      (d.carryOut f moves).2.moved = (d.moved || moves) ∧ (d.carryOut f moves).1 = .ok ()) ∨
      ∃ e, (d.carryOut f moves).2.tree = d.tree ∧ (d.carryOut f moves).2.moved = d.moved ∧
        (d.carryOut f moves).1 = .error e := by
    rw [carryOut]
    cases f d.tree with
    | ok t => exact Or.inl ⟨t, rfl, rfl, rfl, rfl⟩
    | error e => exact Or.inr ⟨e, rfl, rfl, rfl⟩
  rw [change]
  cases d.fate with
  | carriedOut =>
    rcases hcarried with ⟨t, hf, htree, hmoved, hok⟩ | ⟨e, htree, hmoved, herror⟩
    · exact Or.inl ⟨t, hf, htree, hmoved, by simp [hok]⟩
    · exact Or.inr ⟨none, htree.trans (hbroken _).symm, hmoved, by simp [herror]⟩
  | refused e left => exact Or.inr ⟨left, rfl, rfl, by simp⟩
  | cutOff left => exact Or.inr ⟨left, rfl, rfl, by simp⟩
  | cutOffAfter =>
    rcases hcarried with ⟨t, hf, htree, hmoved, -⟩ | ⟨e, htree, hmoved, -⟩
    · exact Or.inl ⟨t, hf, htree, hmoved, by simp⟩
    · exact Or.inr ⟨none, htree.trans (hbroken _).symm, hmoved, by simp⟩

lemma ask_snd (f : FileTree → α) (failed : FileError → α) :
    (ask f failed d).2 = d.next d.tree := by
  rw [ask]
  cases d.fate <;> rfl

end Run

/-! ## Making directories on the way -/

open FileTree

/-- Whatever a program comes to, it moves nothing and makes nothing but directories on the way. -/
def Paves {ε α : Type} (s : Site) (working : Place) (x : ExceptT ε Risky α) : Prop :=
  ∀ d : FaultyDisk, d.tree.working = working →
    Differs s d.tree (run x d).2.tree ∧ (run x d).2.moved = d.moved

/-- A path to a directory on the way. -/
structure LeadsAlong (s : Site) (working : Place) (path : String) : Prop where
  no_dots : ".." ∉ names path
  start : (if Path.isAbsolute path then [] else working) = s.start
  before : leadsTo working path <+: s.directory

section Paves

variable {ε α β : Type} {s : Site} {working : Place} {path : String}

lemma LeadsAlong.parent {q : String} (h : LeadsAlong s working path)
    (hq : Path.parent path = some q) : LeadsAlong s working q := by
  obtain ⟨hdots, habsolute, hleads⟩ := parent_leadsTo hq h.no_dots working
  have hbefore : leadsTo working q <+: leadsTo working path := by
    rcases hleads with heq | ⟨name, heq⟩
    · rw [heq]
    · rw [heq]
      exact List.prefix_append _ _
  exact ⟨hdots, by rw [habsolute]; exact h.start, hbefore.trans h.before⟩

lemma paves_pure (a : α) : Paves s working (pure a : ExceptT ε Risky α) :=
  fun d _ => ⟨.refl s d.tree, rfl⟩

lemma paves_throw (e : ε) : Paves s working (throw e : ExceptT ε Risky α) :=
  fun d _ => ⟨.refl s d.tree, rfl⟩

lemma Paves.bind {x : ExceptT ε Risky α} {f : α → ExceptT ε Risky β}
    (hx : Paves s working x) (hf : ∀ a, Paves s working (f a)) : Paves s working (x >>= f) := by
  intro d hd
  obtain ⟨hdiffers, hmoved⟩ := hx d hd
  rw [run_bind]
  generalize run x d = o at hdiffers hmoved
  rcases o with ⟨_ | e | a, d'⟩
  · exact ⟨hdiffers, hmoved⟩
  · exact ⟨hdiffers, hmoved⟩
  · obtain ⟨hdiffers', hmoved'⟩ := hf a d' (hdiffers.working.trans hd)
    exact ⟨hdiffers.trans hdiffers', hmoved'.trans hmoved⟩

lemma run_lift_snd (x : Risky α) (d : FaultyDisk) :
    (run (ExceptT.lift x : ExceptT ε Risky α) d).2 = (x.run d).2 := by
  show ((x >>= fun a => pure (.ok a) : Risky (Except ε α)).run d).2 = _
  rw [risky_bind]
  rcases x.run d with ⟨_ | _, d'⟩ <;> rfl

lemma paves_isDirectory (path : String) :
    Paves s working (ExceptT.lift (Disk.isDirectory path) : ExceptT ε Risky Bool) := by
  intro d _
  have hask : (Disk.isDirectory path : Risky Bool).run d
      = ask (fun t => t.isDirectory path) (fun _ => false) d := rfl
  rw [run_lift_snd, hask, ask_snd]
  exact ⟨.refl s d.tree, rfl⟩

lemma paves_makeDirectory (h : LeadsAlong s working path) :
    Paves s working (ExceptT.lift (Disk.makeDirectory path) :
      ExceptT ε Risky (Except FileError Unit)) := by
  intro d hd
  have hchange : (Disk.makeDirectory path : Risky (Except FileError Unit)).run d
      = change (fun t => t.makeDirectory path) (fun _ t => t) false d := rfl
  rw [run_lift_snd, hchange]
  rcases change_cases d (fun t => t.makeDirectory path) (fun _ t => t) (fun _ => rfl) false with
    ⟨t, hmade, htree, hmoved, -⟩ | ⟨left, htree, hmoved, -⟩
  · obtain ⟨hstart, hnone, rfl⟩ := makeDirectory_eq_ok hmade
    rw [htree, hmoved, Bool.or_false]
    refine ⟨Differs.put_directory hnone ⟨?_, ?_, ?_⟩, rfl⟩
    · rw [← h.start, ← hd]
      exact prefix_walk h.no_dots _
    · intro heq
      rw [heq, ← h.start, ← hd, ← FileTree.start, hstart] at hnone
      cases hnone
    · rw [hd]
      exact h.before
  · rw [htree, hmoved]
    exact ⟨.refl s d.tree, rfl⟩

lemma respects_paves (s : Site) (working : Place) :
    Disk.Respects (fun _ x (_ : ExceptT FileError Risky _) => Paves s working x)
      (LeadsAlong s working) where
  pure := paves_pure
  throw := paves_throw
  bind := Paves.bind
  isDirectory := paves_isDirectory
  makeDirectory := fun _ => paves_makeDirectory
  parent := fun _ _ => LeadsAlong.parent

theorem paves_makeDirectories (h : LeadsAlong s working path) :
    Paves s working (Disk.makeDirectories path : ExceptT FileError Risky Unit) :=
  (respects_paves s working).makeDirectories h

end Paves

/-! ## A disk on which nothing happens -/

/-- A program comes to the same on a disk without faults as on its tree of files. -/
def Calm {ε α : Type} (x : ExceptT ε Risky α) (y : ExceptT ε (StateM FileTree) α) : Prop :=
  ∀ t moved, ∃ moved', run x ⟨t, [], moved⟩ = (some (outcome y t).1, ⟨(outcome y t).2, [], moved'⟩)

section Calm

variable {ε ε' α β : Type}

lemma calm_pure (a : α) :
    Calm (pure a : ExceptT ε Risky α) (pure a : ExceptT ε (StateM FileTree) α) :=
  fun _ moved => ⟨moved, rfl⟩

lemma calm_throw (e : ε) :
    Calm (throw e : ExceptT ε Risky α) (throw e : ExceptT ε (StateM FileTree) α) :=
  fun _ moved => ⟨moved, rfl⟩

lemma calm_change (f : FileTree → Except FileError FileTree)
    (broken : Option ByteArray → FileTree → FileTree) (moves : Bool) :
    Calm (ExceptT.mk (change f broken moves)) (ExceptT.mk (FileTree.change f)) := by
  intro t moved
  have hchange : run (ExceptT.mk (change f broken moves)) ⟨t, [], moved⟩
      = (some (carryOut f moves ⟨t, [], moved⟩).1, (carryOut f moves ⟨t, [], moved⟩).2) := rfl
  rw [hchange, outcome_change, carryOut]
  dsimp only
  cases f t with
  | ok t' => exact ⟨moved || moves, rfl⟩
  | error e => exact ⟨moved, rfl⟩

lemma Calm.bind {x : ExceptT ε Risky α} {y : ExceptT ε (StateM FileTree) α}
    {f : α → ExceptT ε Risky β} {g : α → ExceptT ε (StateM FileTree) β}
    (hx : Calm x y) (hf : ∀ a, Calm (f a) (g a)) : Calm (x >>= f) (y >>= g) := by
  intro t moved
  obtain ⟨moved', hrun⟩ := hx t moved
  rw [run_bind, outcome_bind, hrun]
  generalize outcome y t = o
  rcases o with ⟨e | a, t'⟩
  · exact ⟨moved', rfl⟩
  · exact hf a t' moved'

lemma Calm.adapt {x : ExceptT ε Risky α} {y : ExceptT ε (StateM FileTree) α} (f : ε → ε')
    (h : Calm x y) : Calm (ExceptT.adapt f x) (ExceptT.adapt f y) := by
  intro t moved
  obtain ⟨moved', hrun⟩ := h t moved
  refine ⟨moved', ?_⟩
  rw [run_adapt, outcome_adapt, hrun]
  rfl

/-- An operation whose failure is looked at. -/
lemma Calm.lift {x : Risky (Except ε α)} {y : StateM FileTree (Except ε α)}
    (h : Calm (ExceptT.mk x) (ExceptT.mk y)) :
    Calm (ExceptT.lift x : ExceptT ε' Risky (Except ε α)) (ExceptT.lift y) := by
  intro t moved
  obtain ⟨moved', hrun⟩ := h t moved
  refine ⟨moved', ?_⟩
  have hx : x.run ⟨t, [], moved⟩ = _ := hrun
  show (x >>= fun a => pure (.ok a) : Risky (Except ε' (Except ε α))).run _ = _
  rw [risky_bind, hx]
  rfl

lemma respects_calm :
    Disk.Respects (fun _ (x : ExceptT FileError Risky _) y => Calm x y) fun _ => True where
  pure := calm_pure
  throw := calm_throw
  bind := Calm.bind
  isDirectory := fun _ _ moved => ⟨moved, rfl⟩
  makeDirectory := fun path _ =>
    (calm_change (fun t => t.makeDirectory path) (fun _ t => t) false).lift
  parent := fun _ _ _ _ => trivial

theorem calm_makeDirectories (path : String) :
    Calm (Disk.makeDirectories path : ExceptT FileError Risky Unit)
      (Disk.makeDirectories path) :=
  respects_calm.makeDirectories trivial

end Calm

end FaultyDisk
end Deprecation
