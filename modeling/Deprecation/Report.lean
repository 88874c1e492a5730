/-
# Reports

A report collects the results of checking many files.  Every file counts as checked; only
files with findings are listed.  The form of a report has a version of its own.
-/
import Deprecation.Finding

namespace Deprecation

/-- The version of a report's form. -/
structure ReportVersion where
  major : Nat
  minor : Nat
deriving DecidableEq, Repr, Inhabited

/-- What a report counts. -/
structure Summary where
  total : Nat := 0
  errors : Nat := 0
  warnings : Nat := 0
  /-- Files checked, with or without findings. -/
  files : Nat := 0
deriving DecidableEq, Repr, Inhabited

/-- The findings in one file. -/
structure FileReport where
  path : String
  findings : List Finding
deriving DecidableEq, Repr, Inhabited

/-- The results of checking many files. -/
structure Report where
  version : ReportVersion
  /-- When the report was begun. -/
  timestamp : String
  summary : Summary
  /-- Whether the result for some listed file blocks. -/
  blocking : Bool
  /-- The files with findings, in the order of checking. -/
  files : List FileReport
deriving DecidableEq, Repr, Inhabited

namespace ReportVersion

/-- The version of reports made here. -/
def current : ReportVersion := ⟨1, 0⟩

/-- A version as it is shown. -/
def text (v : ReportVersion) : String :=
  toString v.major ++ "." ++ toString v.minor

end ReportVersion

namespace Report

/-- A report on no files. -/
def empty (timestamp : String) : Report :=
  ⟨.current, timestamp, {}, false, []⟩

/-- How many findings have a severity. -/
def count (severity : Severity) (findings : List Finding) : Nat :=
  findings.countP fun f => f.severity == severity

/-- The report with the result for one more file. -/
def addFile (r : Report) (path : String) (result : CheckResult) : Report :=
  if result.findings.isEmpty then
    { r with summary := { r.summary with files := r.summary.files + 1 } }
  else
    { r with
      summary :=
        { total := r.summary.total + result.findings.length
          errors := r.summary.errors + count .error result.findings
          warnings := r.summary.warnings + count .warning result.findings
          files := r.summary.files + 1 }
      blocking := r.blocking || result.blocking
      files := r.files ++ [⟨path, result.findings⟩] }

/-- The report with the results for many files, in order. -/
def addFiles (r : Report) (results : List (String × CheckResult)) : Report :=
  results.foldl (fun r f => r.addFile f.1 f.2) r

end Report

/-! ## Written form -/

namespace ReportVersion

def toDatum (v : ReportVersion) : Datum :=
  .record [("major", .nat v.major), ("minor", .nat v.minor)]

def ofDatum (d : Datum) : Option ReportVersion := do
  let g ← d.given ["major", "minor"]
  let major ← g.required 0 (Datum.asNatBelow (Nat.pow 2 32))
  let minor ← g.required 1 (Datum.asNatBelow (Nat.pow 2 32))
  pure { major, minor }

end ReportVersion

namespace Summary

def toDatum (s : Summary) : Datum :=
  .record
    [("total", .nat s.total), ("errors", .nat s.errors), ("warnings", .nat s.warnings),
      ("files_checked", .nat s.files)]

def ofDatum (d : Datum) : Option Summary := do
  let g ← d.given ["total", "errors", "warnings", "files_checked"]
  let total ← g.required 0 (Datum.asNatBelow (Nat.pow 2 64))
  let errors ← g.required 1 (Datum.asNatBelow (Nat.pow 2 64))
  let warnings ← g.required 2 (Datum.asNatBelow (Nat.pow 2 64))
  let files ← g.required 3 (Datum.asNatBelow (Nat.pow 2 64))
  pure { total, errors, warnings, files }

end Summary

namespace FileReport

def toDatum (f : FileReport) : Datum :=
  .record [("path", .str f.path), ("findings", .list (f.findings.map Finding.toDatum))]

/-- The part of a report that a datum describes; the report and the list of its files are
around it. -/
def ofDatum (d : Datum) : Option FileReport := do
  let g ← d.given ["path", "findings"]
  let path ← g.required 0 Datum.asText
  let findings ← g.required 1 (Datum.asList (Finding.ofDatum 4))
  pure { path, findings }

end FileReport

namespace Report

def toDatum (r : Report) : Datum :=
  .record
    [("version", r.version.toDatum), ("timestamp", .str r.timestamp),
      ("summary", r.summary.toDatum), ("blocking", .bool r.blocking),
      ("files", .list (r.files.map FileReport.toDatum))]

def ofDatum (d : Datum) : Option Report := do
  let g ← d.given ["version", "timestamp", "summary", "blocking", "files"]
  let version ← g.required 0 ReportVersion.ofDatum
  let timestamp ← g.required 1 Datum.asText
  let summary ← g.required 2 Summary.ofDatum
  let blocking ← g.required 3 Datum.asBool
  let files ← g.required 4 (Datum.asList FileReport.ofDatum)
  pure { version, timestamp, summary, blocking, files }

end Report

end Deprecation
