/-
# Rules and records as structured data

The written form of records and rules: the names of their fields, their order, and which of
them may be left out.
-/
import Deprecation.Datum.Decode
import Deprecation.Instant.Printer
import Deprecation.Instant.Reader
import Deprecation.Rule

namespace Deprecation

/-- An instant as a datum. -/
def Instant.toDatum (t : Instant) : Datum := .str t.toText

/-- The instant that a datum names. -/
def Instant.ofDatum (d : Datum) : Option Instant := d.asText >>= Instant.ofText

/-! ## Enumerations -/

namespace Category

def toDatum (c : Category) : Datum := .str c.name

def ofDatum (format : Format) (d : Datum) : Option Category := d.asOneOf all name format

end Category

namespace Severity

def toDatum (s : Severity) : Datum := .str s.name

def ofDatum (format : Format) (d : Datum) : Option Severity := d.asOneOf all name format

end Severity

namespace Status

def toDatum (s : Status) : Datum := .str s.name

def ofDatum (format : Format) (d : Datum) : Option Status := d.asOneOf all name format

end Status

namespace Decision

def toDatum (s : Decision) : Datum := .str s.name

def ofDatum (format : Format) (d : Datum) : Option Decision := d.asOneOf all name format

end Decision

/-! ## Records -/

namespace Record

def toDatum (r : Record) : Datum :=
  .record
    [("deprecated_api", .str r.token), ("replacement_api", .option .str r.replacement),
      ("category", r.category.toDatum), ("source_release", .str r.release)]

def ofDatum (d : Datum) : Option Record := do
  let g ← d.given ["deprecated_api", "replacement_api", "category", "source_release"]
  let token ← g.required 0 Datum.asText
  let replacement ← g.optional 1 Datum.asText
  let category ← g.required 2 (Category.ofDatum .json)
  let release ← g.required 3 Datum.asText
  pure { token, replacement, category, release }

end Record

/-! ## Rules -/

namespace StaticRule

def toDatum (r : StaticRule) : Datum :=
  .record <|
    [("id", .str r.id), ("pattern", .str r.pattern), ("description", .str r.description)]
      ++ Datum.optionalField "correction_id" .str r.correction
      ++ [("severity", r.severity.toDatum)]

def ofDatum (format : Format) (d : Datum) : Option StaticRule := do
  let g ← d.given ["id", "pattern", "description", "correction_id", "severity"] format
  let id ← g.required 0 Datum.asText
  let pattern ← g.required 1 Datum.asText
  let description ← g.required 2 Datum.asText
  let correction ← g.withDefault 3 none (Datum.asOption Datum.asText)
  let severity ← g.required 4 (Severity.ofDatum format)
  pure { id, pattern, description, correction, severity }

end StaticRule

namespace MinedRule

def toDatum (r : MinedRule) : Datum :=
  .record <|
    [("id", .str r.id), ("deprecated_api", .str r.token), ("category", r.category.toDatum),
      ("pattern", .str r.pattern), ("description", .str r.description),
      ("severity", r.severity.toDatum)]
      ++ Datum.optionalField "fix_suggestion" .str r.fix
      ++ Datum.optionalField "correction_id" .str r.correction
      ++ [("source_release", .str r.release), ("review_status", r.status.toDatum),
        ("generated_at", r.madeAt.toDatum)]

def ofDatum (d : Datum) : Option MinedRule := do
  let g ← d.given
    ["id", "deprecated_api", "category", "pattern", "description", "severity",
      "fix_suggestion", "correction_id", "source_release", "review_status", "generated_at"]
  let id ← g.required 0 Datum.asText
  let token ← g.required 1 Datum.asText
  let category ← g.required 2 (Category.ofDatum .json)
  let pattern ← g.required 3 Datum.asText
  let description ← g.required 4 Datum.asText
  let severity ← g.required 5 (Severity.ofDatum .json)
  let fix ← g.withDefault 6 none (Datum.asOption Datum.asText)
  let correction ← g.withDefault 7 none (Datum.asOption Datum.asText)
  let release ← g.required 8 Datum.asText
  let status ← g.required 9 (Status.ofDatum .json)
  let madeAt ← g.required 10 Instant.ofDatum
  pure { id, token, category, pattern, description, severity, fix, correction, release,
         status, madeAt }

end MinedRule

namespace Origin

def toDatum : Origin → Datum
  | static => .record [("kind", .str "static")]
  | mined release => .record [("kind", .str "dynamic"), ("source_release", .str release)]

/-- The origin that a datum names, with so many lists and tables around it. -/
def ofDatum (around : Nat) (d : Datum) : Option Origin := do
  let (kind, rest) ← d.tagged "kind" around
  if kind = "static" then
    match rest with
    | .table _ | .list [] => pure static
    | _ => none
  else if kind = "dynamic" then
    let g ← rest.given ["source_release"]
    let release ← g.required 0 Datum.asText
    pure (mined release)
  else none

end Origin

namespace Rule

def toDatum (r : Rule) : Datum :=
  .record
    [("id", .str r.id), ("pattern", .str r.pattern), ("description", .str r.description),
      ("severity", r.severity.toDatum), ("fix_suggestion", .option .str r.fix),
      ("correction_id", .option .str r.correction), ("origin", r.origin.toDatum)]

def ofDatum (d : Datum) : Option Rule := do
  let g ← d.given
    ["id", "pattern", "description", "severity", "fix_suggestion", "correction_id", "origin"]
  let id ← g.required 0 Datum.asText
  let pattern ← g.required 1 Datum.asText
  let description ← g.required 2 Datum.asText
  let severity ← g.required 3 (Severity.ofDatum .json)
  let fix ← g.optional 4 Datum.asText
  let correction ← g.optional 5 Datum.asText
  let origin ← g.required 6 (Origin.ofDatum 1)
  pure { id, pattern, description, severity, fix, correction, origin }

end Rule

end Deprecation
