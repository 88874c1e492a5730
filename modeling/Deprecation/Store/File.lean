/-
# Keeping a store in a file

A snapshot is kept in one file.  It is first written to a file beside it, which is then moved
to its place in one step; so at any moment the file holds the whole of some snapshot, whatever
happens on the way.
-/
import Deprecation.Files.Disk
import Deprecation.Store.Persistence

namespace Deprecation.SnapshotFile

/-- The file beside a snapshot file that a snapshot is first written to. -/
def temporary (path : String) : String :=
  Path.withFileName path ((Path.fileName path).getD "" ++ ".tmp")

variable {m : Type → Type} [Monad m] [Disk m]

/-- Makes the directories that lead to a snapshot file. -/
def makeParents (path : String) : ExceptT FileError m Unit :=
  match Path.parent path with
  | some p => Disk.makeDirectories p
  | none => pure ()

/-- Writes a snapshot beside its place. -/
def writeAside (path : String) (bytes : ByteArray) : ExceptT FileError m Unit :=
  ExceptT.mk (Disk.write (temporary path) bytes)

/-- Moves the snapshot that was written beside its place to its place. -/
def moveIntoPlace (path : String) : ExceptT FileError m Unit :=
  ExceptT.mk (Disk.rename (temporary path) path)

/-- Keeps a snapshot in place of the one before. -/
def save (path : String) (bytes : ByteArray) : ExceptT MediumError m Unit :=
  ExceptT.adapt (.file path) do
    makeParents path
    writeAside path bytes
    moveIntoPlace path

/-- The snapshot that was kept last, if there is one. -/
def load (path : String) : ExceptT MediumError m (Option ByteArray) := do
  match ← ExceptT.lift (Disk.read path) with
  | .ok bytes => pure (some bytes)
  | .error .notFound => pure none
  | .error e => throw (.file path e)

end Deprecation.SnapshotFile
