/-
# The records of a release

The body of a release is read line by line.  A fact is known by its token and its category:
the first line that states it gives the record, and later lines that state it again are
counted and dropped.  Nothing else is an error; lines that follow no template are skipped.
-/
import Deprecation.Changelog.Template

namespace Deprecation.Changelog

open Text

/-- What was seen in the lines of one or more releases. -/
structure Tally where
  /-- Lines read. -/
  scanned : Nat := 0
  /-- Lines that announce a deprecation. -/
  matched : Nat := 0
  /-- Announcements of a fact that an earlier line of the release has stated. -/
  repeated : Nat := 0
deriving DecidableEq, Repr, Inhabited

namespace Tally

/-- Lines that announce nothing. -/
def skipped (t : Tally) : Nat := t.scanned - t.matched

/-- The tallies of two stretches of text together. -/
def add (t u : Tally) : Tally :=
  ⟨t.scanned + u.scanned, t.matched + u.matched, t.repeated + u.repeated⟩

instance : Add Tally := ⟨add⟩

@[simp] theorem scanned_add (t u : Tally) : (t + u).scanned = t.scanned + u.scanned := rfl

@[simp] theorem matched_add (t u : Tally) : (t + u).matched = t.matched + u.matched := rfl

@[simp] theorem repeated_add (t u : Tally) : (t + u).repeated = t.repeated + u.repeated := rfl

end Tally

end Deprecation.Changelog

namespace Deprecation.Record

/-- Two records state the same fact of their release when they agree on token and category. -/
def sameFact (r s : Record) : Bool :=
  r.token == s.token && r.category == s.category

/-- The records that state a fact for the first time, in order; `known` holds the records
that came before. -/
def firstStatements (known : List Record) : List Record → List Record
  | [] => []
  | r :: rest =>
    if known.any r.sameFact then firstStatements known rest
    else r :: firstStatements (r :: known) rest

end Deprecation.Record

namespace Deprecation.Changelog

open Text

/-- The records that the lines of a body announce, repetitions included. -/
def announcements (body release : String) : List Record :=
  (lines body.toList).filterMap (recordOf (trimmed release))

/-- The records of a release. -/
def records (body release : String) : List Record :=
  Record.firstStatements [] (announcements body release)

/-- What was seen in the body of a release. -/
def tally (body release : String) : Tally where
  scanned := (lines body.toList).length
  matched := (announcements body release).length
  repeated := (announcements body release).length - (records body release).length

end Deprecation.Changelog
