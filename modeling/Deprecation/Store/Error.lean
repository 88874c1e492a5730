/-
# Store errors

Why a store refuses an operation.  A store that refuses an operation stays as it is.
-/
import Deprecation.Files.Error
import Deprecation.Rule
import Deprecation.Snapshot

namespace Deprecation

/-- Why a snapshot could not be kept or fetched. -/
inductive MediumError where
  /-- A file operation failed. -/
  | file (path : String) (cause : FileError)
  /-- The medium does not answer. -/
  | unavailable (reason : String)
deriving DecidableEq, Repr, Inhabited

/-- What is said of a medium that failed. -/
def MediumError.message : MediumError → String
  | file path cause => "IO error at " ++ path ++ ": " ++ cause.message
  | unavailable reason => "Backend unavailable: " ++ reason

/-- Why a store refuses an operation. -/
inductive StoreError where
  /-- A pattern does not compile. -/
  | invalidPattern (id : String)
  /-- A rule refers to an entry that does not exist. -/
  | danglingCorrection (id entry : String)
  /-- Two rules have the same id. -/
  | duplicateRule (id : String)
  /-- The id of a mined rule belongs to a static one. -/
  | staticConflict (id : String)
  /-- A mined rule has no release. -/
  | missingRelease (id : String)
  /-- A mined rule comes with a review. -/
  | notDraft (id : String) (status : Status)
  /-- A reviewed rule would change. -/
  | alreadyReviewed (id : String) (status : Status)
  /-- There is no such rule. -/
  | unknownRule (id : String)
  /-- A review does not move a rule from the one status to the other. -/
  | invalidTransition (id : String) (current wanted : Status)
  /-- A snapshot is refused. -/
  | corrupt (cause : SnapshotError)
  /-- The medium failed. -/
  | medium (cause : MediumError)
deriving DecidableEq, Repr, Inhabited

/-- What is said of a refused operation. -/
def StoreError.message : StoreError → String
  | invalidPattern id => "Rule '" ++ id ++ "' has an invalid pattern: it is no regular expression"
  | danglingCorrection id entry =>
    "Rule '" ++ id ++ "' references unknown knowledge entry '" ++ entry ++ "'"
  | duplicateRule id => "Duplicate rule id: " ++ id
  | staticConflict id => "Rule id '" ++ id ++ "' belongs to a static rule"
  | missingRelease id => "Rule '" ++ id ++ "' has no source release"
  | notDraft id status => "Rule '" ++ id ++ "' must be submitted as draft, got " ++ status.name
  | alreadyReviewed id status =>
    "Rule '" ++ id ++ "' is already " ++ status.name ++ "; supersede it with a new id"
  | unknownRule id => "Unknown rule: " ++ id
  | invalidTransition id current wanted =>
    "Invalid review transition for '" ++ id ++ "': " ++ current.name ++ " -> " ++ wanted.name
  | corrupt cause => "Persisted state is corrupt: " ++ cause.message
  | medium cause => "Backend error: " ++ cause.message

end Deprecation
