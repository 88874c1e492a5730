/-
# Knowledge entries

A knowledge entry documents the correct usage of a part of the framework.  Rules point to
entries by id.
-/
import Deprecation.Rule.Codec

namespace Deprecation

/-- How sure the authors of an entry are of it. -/
inductive Confidence where
  | high
  | medium
  | low
deriving DecidableEq, Repr

instance : Inhabited Confidence := ⟨.medium⟩

/-- A documented usage. -/
structure Entry where
  id : String
  title : String
  content : String
  /-- The versions of the framework that the entry applies to. -/
  versions : String
  confidence : Confidence
  /-- When the entry was last held against the framework. -/
  verifiedAt : Instant
deriving DecidableEq, Repr, Inhabited

namespace Confidence

/-- The word for a confidence. -/
def name : Confidence → String
  | high => "high"
  | medium => "medium"
  | low => "low"

/-- All confidences. -/
def all : List Confidence := [high, medium, low]

def toDatum (c : Confidence) : Datum := .str c.name

def ofDatum (format : Format) (d : Datum) : Option Confidence := d.asOneOf all name format

end Confidence

namespace Entry

def toDatum (e : Entry) : Datum :=
  .record
    [("id", .str e.id), ("title", .str e.title), ("content", .str e.content),
      ("version_range", .str e.versions), ("confidence", e.confidence.toDatum),
      ("last_verified_at", e.verifiedAt.toDatum)]

/-- The entry that a datum describes; its confidence is medium unless given. -/
def ofDatum (format : Format) (d : Datum) : Option Entry := do
  let g ← d.given
    ["id", "title", "content", "version_range", "confidence", "last_verified_at"] format
  let id ← g.required 0 Datum.asText
  let title ← g.required 1 Datum.asText
  let content ← g.required 2 Datum.asText
  let versions ← g.required 3 Datum.asText
  let confidence ← g.withDefault 4 .medium (Confidence.ofDatum format)
  let verifiedAt ← g.required 5 Instant.ofDatum
  pure { id, title, content, versions, confidence, verifiedAt }

end Entry

end Deprecation
