/-
# Disks

What the program needs of files is gathered in one interface, so that the same code runs on
the files of the computer and on a tree of files that is a value.  An operation that fails
says why.
-/
import Deprecation.Files.Tree

namespace Deprecation

/-- Operations on files. -/
class Disk (m : Type → Type) where
  /-- The bytes of a file. -/
  read : String → m (Except FileError ByteArray)
  /-- Writes a file in place of the one before. -/
  write : String → ByteArray → m (Except FileError Unit)
  /-- Makes a directory in a directory. -/
  makeDirectory : String → m (Except FileError Unit)
  /-- Moves a file to another path, in place of the file there, in one step. -/
  rename : String → String → m (Except FileError Unit)
  /-- Whether a path leads to a file. -/
  isFile : String → m Bool
  /-- Whether a path leads to a directory. -/
  isDirectory : String → m Bool
  /-- The paths of the files that a path leads to, in the order of their names: of the file
  itself, or of the files in the directory, at most so deep when a depth is given. -/
  files : String → Option Nat → m (List String)

namespace FileTree

/-- Carries out an operation that gives a new tree, or leaves the tree as it is. -/
def change (f : FileTree → Except FileError FileTree) : StateM FileTree (Except FileError Unit) :=
  fun t => match f t with
    | .ok t => (.ok (), t)
    | .error e => (.error e, t)

instance : Disk (StateM FileTree) where
  read path := fun t => (t.read path, t)
  write path bytes := change fun t => t.write path bytes
  makeDirectory path := change fun t => t.makeDirectory path
  rename old new := change fun t => t.rename old new
  isFile path := fun t => (t.isFile path, t)
  isDirectory path := fun t => (t.isDirectory path, t)
  files path depth := fun t => (t.files path depth, t)

end FileTree

namespace Disk

variable {m : Type → Type} [Monad m] [Disk m]

/-- The text of a file. -/
def readText (path : String) : ExceptT FileError m String := do
  let bytes ← ExceptT.mk (read path)
  match String.fromUTF8? bytes with
  | some text => pure text
  | none => throw .notText

/-- Writes a text to a file. -/
def writeText (path text : String) : ExceptT FileError m Unit :=
  ExceptT.mk (write path text.toUTF8)

/-- Makes a directory unless it is there. -/
def ensureDirectory (path : String) : ExceptT FileError m Unit := do
  match ← ExceptT.lift (makeDirectory path) with
  | .ok () => pure ()
  | .error e => if ← ExceptT.lift (isDirectory path) then pure () else throw e

/-- Makes a directory and the directories that lead to it, unless they are there.  The path
has at most so many components. -/
def makeDirectoriesUpTo : Nat → String → ExceptT FileError m Unit
  | 0, path => ensureDirectory path
  | n + 1, path => do
    match ← ExceptT.lift (makeDirectory path) with
    | .ok () => pure ()
    | .error .notFound =>
      match Path.parent path with
      | none => throw (.other "failed to create whole tree")
      | some "" => pure ()
      | some p => makeDirectoriesUpTo n p
      ensureDirectory path
    | .error e => if ← ExceptT.lift (isDirectory path) then pure () else throw e

/-- Makes a directory and the directories that lead to it, unless they are there. -/
def makeDirectories (path : String) : ExceptT FileError m Unit :=
  if path = "" then pure () else makeDirectoriesUpTo path.length path

end Disk

end Deprecation
