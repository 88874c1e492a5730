/-
# Findings

A check of a source text lists findings: the places where a rule matches.  A finding repeats
what the rule says, and resolves the rule's reference to a knowledge entry as far as it can.
The result blocks when one of its findings is an error.
-/
import Deprecation.Rule.Codec

namespace Deprecation

/-- What became of a reference to a knowledge entry. -/
inductive Correction where
  /-- The entry exists. -/
  | resolved (title : String)
  /-- There is no such entry. -/
  | unresolved
deriving DecidableEq, Repr, Inhabited

/-- A place where a rule matches. -/
structure Finding where
  ruleId : String
  severity : Severity
  description : String
  fix : Option String
  correctionId : Option String
  correction : Option Correction
  /-- The text of the match. -/
  matched : String
  /-- The line on which the match starts, counted from one. -/
  line : Nat
deriving DecidableEq, Repr, Inhabited

/-- What a check of one text has found. -/
structure CheckResult where
  findings : List Finding
  blocking : Bool
deriving DecidableEq, Repr, Inhabited

namespace Finding

/-- Whether a finding blocks. -/
def isError (f : Finding) : Bool := f.severity == .error

end Finding

/-- The result of a check with these findings. -/
def CheckResult.ofFindings (findings : List Finding) : CheckResult :=
  ⟨findings, findings.any Finding.isError⟩

@[simp] theorem CheckResult.findings_ofFindings (fs : List Finding) :
    (CheckResult.ofFindings fs).findings = fs := rfl

@[simp] theorem CheckResult.blocking_ofFindings (fs : List Finding) :
    (CheckResult.ofFindings fs).blocking = fs.any Finding.isError := rfl

/-! ## Written form -/

namespace Correction

def toDatum : Correction → Datum
  | resolved title => .record [("status", .str "resolved"), ("title", .str title)]
  | unresolved => .record [("status", .str "unresolved")]

/-- The correction that a datum describes, with so many lists and tables around it. -/
def ofDatum (around : Nat) (d : Datum) : Option Correction := do
  let (status, rest) ← d.tagged "status" around
  if status = "resolved" then
    let g ← rest.given ["title"]
    let title ← g.required 0 Datum.asText
    pure (resolved title)
  else if status = "unresolved" then
    match rest with
    | .table _ | .list [] => pure unresolved
    | _ => none
  else none

end Correction

namespace Finding

def toDatum (f : Finding) : Datum :=
  .record
    [("rule_id", .str f.ruleId), ("severity", f.severity.toDatum),
      ("description", .str f.description), ("fix_suggestion", .option .str f.fix),
      ("correction_id", .option .str f.correctionId),
      ("correction", .option Correction.toDatum f.correction),
      ("matched_text", .str f.matched), ("line_number", .nat f.line)]

/-- The finding that a datum describes, with so many lists and tables around it. -/
def ofDatum (around : Nat) (d : Datum) : Option Finding := do
  let g ← d.given
    ["rule_id", "severity", "description", "fix_suggestion", "correction_id", "correction",
      "matched_text", "line_number"]
  let ruleId ← g.required 0 Datum.asText
  let severity ← g.required 1 (Severity.ofDatum .json)
  let description ← g.required 2 Datum.asText
  let fix ← g.optional 3 Datum.asText
  let correctionId ← g.optional 4 Datum.asText
  let correction ← g.optional 5 (Correction.ofDatum (around + 1))
  let matched ← g.required 6 Datum.asText
  let line ← g.required 7 (Datum.asNatBelow (Nat.pow 2 64))
  pure { ruleId, severity, description, fix, correctionId, correction, matched, line }

end Finding

namespace CheckResult

def toDatum (r : CheckResult) : Datum :=
  .record [("findings", .list (r.findings.map Finding.toDatum)), ("blocking", .bool r.blocking)]

def ofDatum (d : Datum) : Option CheckResult := do
  let g ← d.given ["findings", "blocking"]
  let findings ← g.required 0 (Datum.asList (Finding.ofDatum 2))
  let blocking ← g.required 1 Datum.asBool
  pure { findings, blocking }

end CheckResult

end Deprecation
