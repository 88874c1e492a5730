/-
# Watching a directory

New releases appear as files `<version>.md` in a directory.  A watch looks at the directory
again and again, and ingests each release file once.  A file that cannot be read is tried
again at the next look; one that was ingested is left alone even when it changes.

Looks follow one another: each is over before the next one begins.  A timer that does not wait
for a look to be over may begin another one meanwhile, which ends where it finds an ingestion
going on and may otherwise ingest a file a second time.  Such looks at the same time are left out.
-/
import Deprecation.Ingest.Text
import Deprecation.Service

namespace Deprecation

/-- A service that takes in new releases. -/
structure Watch where
  service : Service
  /-- The paths that were ingested. -/
  seen : List String

namespace Watch

/-- The version that a path is named for: the file is Markdown, and its name starts with a
digit behind any number of `v`. -/
def versionOf (path : String) : Option String := do
  if (← Path.extension path) ≠ "md" then none
  let version := (← Path.stem path).toList.dropWhile (· = 'v')
  if version.head?.any Char.isDigit then some (String.ofList version) else none

variable {m : Type → Type} [Monad m] [Disk m]

/-- The release files in a directory, with their versions, in the order of their names. -/
def releaseFiles (directory : String) : m (List (String × String)) := do
  let files ← Disk.files directory (some 1)
  pure (files.filterMap fun path => (versionOf path).map (·, path))

/-- Takes in one release file, unless it was taken in before or cannot be read.  Gives what
is shown. -/
def takeIn (w : Watch) (clock : Clock) (version path : String) : m (String × Watch × Clock) := do
  if path ∈ w.seen then pure ("", w, clock)
  else
    match ← (Disk.readText path).run with
    | .error _ => pure ("", w, clock)
    | .ok text =>
      let (report, service, clock) := w.service.ingest text version clock
      let _ ← service.persist.run
      pure (report.shown, ⟨service, path :: w.seen⟩, clock)

/-- Takes in release files, one after the other. -/
def takeInAll (w : Watch) (clock : Clock) : List (String × String) → m (String × Watch × Clock)
  | [] => pure ("", w, clock)
  | (version, path) :: rest => do
    let (first, w, clock) ← w.takeIn clock version path
    let (others, w, clock) ← takeInAll w clock rest
    pure (first ++ others, w, clock)

/-- Looks at the directory once. -/
def tick (w : Watch) (clock : Clock) (directory : String) : m (String × Watch × Clock) := do
  w.takeInAll clock (← releaseFiles directory)

end Watch

end Deprecation
