/-
# Operations on a tree of files

A program works on whatever disk it is given.  Making directories takes several steps, and what it
does on a disk, or on two disks that are compared, follows from what making one directory does.

On a tree of files that is a value a program comes to an outcome and leaves another tree, one step
after the other.  This file says how the outcome of a program is made of the outcomes of its parts,
and that making directories only adds to the tree, whether or not it succeeds.
-/
import Mathlib
import Deprecation.Proofs.Files.Tree

namespace Deprecation

namespace Disk

/-! ## Programs that make directories -/

variable {m m' : Type → Type} [Monad m] [Disk m] [Monad m'] [Disk m']

/-- A relation between programs on two disks that holds of those that make a directory, if its path
is fit, and of whatever is put together from related programs. -/
structure Respects
    (R : (α : Type) → ExceptT FileError m α → ExceptT FileError m' α → Prop)
    (fit : String → Prop) : Prop where
  pure : ∀ {α : Type} (a : α), R α (pure a) (pure a)
  throw : ∀ {α : Type} (e : FileError), R α (throw e) (throw e)
  bind : ∀ {α β : Type} {x : ExceptT FileError m α} {y : ExceptT FileError m' α}
    {f : α → ExceptT FileError m β} {g : α → ExceptT FileError m' β},
    R α x y → (∀ a, R β (f a) (g a)) → R β (x >>= f) (y >>= g)
  isDirectory : ∀ path,
    R Bool (ExceptT.lift (isDirectory path)) (ExceptT.lift (isDirectory path))
  makeDirectory : ∀ path, fit path →
    R (Except FileError Unit) (ExceptT.lift (makeDirectory path))
      (ExceptT.lift (makeDirectory path))
  parent : ∀ path p, fit path → Path.parent path = some p → fit p

namespace Respects

variable {R : (α : Type) → ExceptT FileError m α → ExceptT FileError m' α → Prop}
  {fit : String → Prop} {path : String}

lemma unless_directory (h : Respects R fit) (path : String) (e : FileError) :
    R Unit (do if ← ExceptT.lift (Disk.isDirectory path) then Pure.pure () else MonadExcept.throw e)
      (do if ← ExceptT.lift (Disk.isDirectory path) then Pure.pure () else MonadExcept.throw e) := by
  refine h.bind (h.isDirectory path) fun found => ?_
  split
  · exact h.pure ()
  · exact h.throw e

lemma ensureDirectory (h : Respects R fit) (hfit : fit path) :
    R Unit (Disk.ensureDirectory path) (Disk.ensureDirectory path) := by
  refine h.bind (h.makeDirectory path hfit) fun made => ?_
  cases made with
  | ok u => exact h.pure ()
  | error e => exact h.unless_directory path e

lemma makeDirectoriesUpTo (h : Respects R fit) (n : Nat) (hfit : fit path) :
    R Unit (Disk.makeDirectoriesUpTo n path) (Disk.makeDirectoriesUpTo n path) := by
  induction n generalizing path with
  | zero => exact h.ensureDirectory hfit
  | succ n ih =>
    refine h.bind (h.makeDirectory path hfit) fun made => ?_
    split
    · exact h.pure ()
    · -- the directories before come first
      split
      · exact h.bind (h.throw _) fun _ => h.ensureDirectory hfit
      · exact h.ensureDirectory hfit
      next p _ hp => exact h.bind (ih (h.parent path p hfit hp)) fun _ => h.ensureDirectory hfit
    · exact h.unless_directory path _

/-- Making directories is made of making one. -/
theorem makeDirectories (h : Respects R fit) (hfit : fit path) :
    R Unit (Disk.makeDirectories path) (Disk.makeDirectories path) := by
  rw [Disk.makeDirectories, Disk.makeDirectories]
  split
  · exact h.pure ()
  · exact h.makeDirectoriesUpTo _ hfit

end Respects

end Disk

namespace FileTree

/-- What a program comes to on a tree of files, and the tree that it leaves. -/
def outcome {ε α : Type} (x : ExceptT ε (StateM FileTree) α) (t : FileTree) :
    Except ε α × FileTree :=
  x.run t

section Outcome

variable {ε ε' α β : Type} (t : FileTree)

lemma outcome_mk_pure (a : Except ε α) :
    outcome (ExceptT.mk (pure a) : ExceptT ε (StateM FileTree) α) t = (a, t) := rfl

lemma bind_apply (x : StateM FileTree α) (f : α → StateM FileTree β) :
    (x >>= f) t = f (x t).1 (x t).2 := rfl

/-- One program and then another. -/
lemma outcome_bind (x : ExceptT ε (StateM FileTree) α) (f : α → ExceptT ε (StateM FileTree) β) :
    outcome (x >>= f) t =
      match outcome x t with
      | (.ok a, t') => outcome (f a) t'
      | (.error e, t') => (.error e, t') := by
  show (ExceptT.bindCont f (outcome x t).1).run (outcome x t).2 = _
  rcases outcome x t with ⟨a | e, t'⟩ <;> rfl

lemma outcome_adapt (f : ε → ε') (x : ExceptT ε (StateM FileTree) α) :
    outcome (ExceptT.adapt f x) t = ((outcome x t).1.mapError f, (outcome x t).2) := rfl

lemma outcome_change (f : FileTree → Except FileError FileTree) :
    outcome (ExceptT.mk (change f)) t =
      match f t with
      | .ok t' => (.ok (), t')
      | .error e => (.error e, t) := by
  show change f t = _
  rw [change]
  cases f t <;> rfl

end Outcome

/-! ## Making directories -/

/-- Whatever a program comes to, it only adds to the tree. -/
def Adds {ε α : Type} (x : ExceptT ε (StateM FileTree) α) : Prop :=
  ∀ t : FileTree, t.Extends (outcome x t).2

section Adds

variable {ε α β : Type}

lemma adds_pure (a : α) : Adds (pure a : ExceptT ε (StateM FileTree) α) :=
  Extends.refl

lemma adds_throw (e : ε) : Adds (throw e : ExceptT ε (StateM FileTree) α) :=
  Extends.refl

lemma Adds.bind {x : ExceptT ε (StateM FileTree) α} {f : α → ExceptT ε (StateM FileTree) β}
    (hx : Adds x) (hf : ∀ a, Adds (f a)) : Adds (x >>= f) := by
  intro t
  rw [outcome_bind]
  have hfirst := hx t
  generalize outcome x t = o at hfirst
  rcases o with ⟨e | a, t'⟩
  · exact hfirst
  · exact hfirst.trans (hf a t')

lemma adds_isDirectory (path : String) :
    Adds (ExceptT.lift (Disk.isDirectory path) : ExceptT ε (StateM FileTree) Bool) :=
  Extends.refl

lemma adds_makeDirectory (path : String) :
    Adds (ExceptT.lift (Disk.makeDirectory path) :
      ExceptT ε (StateM FileTree) (Except FileError Unit)) := by
  intro t
  show t.Extends (change (fun t => t.makeDirectory path) t).2
  rw [change]
  cases h : t.makeDirectory path with
  | error e => exact Extends.refl t
  | ok t' =>
    obtain ⟨-, hnone, rfl⟩ := makeDirectory_eq_ok h
    exact extends_put hnone _

lemma respects_adds :
    Disk.Respects (fun _ x (_ : ExceptT FileError (StateM FileTree) _) => Adds x)
      fun _ => True where
  pure := adds_pure
  throw := adds_throw
  bind := Adds.bind
  isDirectory := adds_isDirectory
  makeDirectory := fun path _ => adds_makeDirectory path
  parent := fun _ _ _ _ => trivial

theorem adds_makeDirectories (path : String) :
    Adds (Disk.makeDirectories path : ExceptT FileError (StateM FileTree) Unit) :=
  respects_adds.makeDirectories trivial

end Adds

end FileTree

end Deprecation
