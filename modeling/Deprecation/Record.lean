/-
# Deprecation records

A release note states facts of one kind: some API token has been renamed, has been removed,
or is deprecated in favor of another.  A record is one such fact together with the release
that announces it.  The category of a record alone decides how severe a use of the token is.
-/

namespace Deprecation

/-- What a release says has happened to a token. -/
inductive Category where
  /-- The token has been renamed. -/
  | renamed
  /-- The token no longer exists. -/
  | removed
  /-- The token is deprecated in favor of another. -/
  | changed
deriving DecidableEq, Repr, Inhabited

/-- How severe a use of a deprecated token is. -/
inductive Severity where
  /-- Worth a look, but nothing is blocked. -/
  | warning
  /-- Blocks. -/
  | error
deriving DecidableEq, Repr, Inhabited

namespace Category

/-- The word for a category. -/
def name : Category → String
  | renamed => "renamed"
  | removed => "removed"
  | changed => "changed"

/-- All categories. -/
def all : List Category := [renamed, removed, changed]

/-- A removed token no longer compiles, so its use is an error; a renamed or changed one
works for a while, so its use is a warning. -/
def severity : Category → Severity
  | removed => .error
  | renamed | changed => .warning

end Category

namespace Severity

/-- The word for a severity. -/
def name : Severity → String
  | warning => "warning"
  | error => "error"

/-- All severities. -/
def all : List Severity := [warning, error]

end Severity

/-- A deprecation fact that a release announces. -/
structure Record where
  /-- The token that the release deprecates. -/
  token : String
  /-- The token to use instead, when the release names one. -/
  replacement : Option String
  /-- What has happened to the token. -/
  category : Category
  /-- The version label of the release. -/
  release : String
deriving DecidableEq, Repr, Inhabited

end Deprecation
