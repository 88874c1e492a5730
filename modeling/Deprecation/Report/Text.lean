/-
# Reports as they are read

A report is shown on the terminal, and may be written as Markdown besides.  Both list the
counts first and then the findings by file.
-/
import Deprecation.Report

namespace Deprecation

/-- The line above and below what is shown. -/
def Text.rule : String := String.ofList (List.replicate 60 '=')

/-- A title between two lines, after an empty line. -/
def Text.banner (title : String) : String :=
  "\n" ++ Text.rule ++ "\n" ++ title ++ "\n" ++ Text.rule ++ "\n\n"

/-- How the severity of a rule is shown. -/
def Severity.label : Severity → String
  | .error => "ERROR"
  | .warning => "WARN"

/-- How the severity of a rule is marked. -/
def Severity.mark : Severity → String
  | .error => "❌"
  | .warning => "⚠️"

namespace Finding

/-- What a finding refers to, as it is shown. -/
def reference (f : Finding) : String :=
  match f.correction with
  | some (.resolved title) => "    See: " ++ title ++ "\n"
  | some .unresolved => "    See: (knowledge entry missing)\n"
  | none => ""

/-- A finding as it is shown. -/
def shown (path : String) (f : Finding) : String :=
  "  [" ++ f.severity.label ++ "] " ++ f.ruleId ++ ": " ++ f.description ++ "\n"
    ++ "    at " ++ path ++ ":" ++ toString f.line ++ " `" ++ f.matched ++ "`\n"
    ++ (match f.fix with
        | some fix => "    Fix: " ++ fix ++ "\n"
        | none => "")
    ++ f.reference

/-- A finding in Markdown. -/
def markdown (f : Finding) : String :=
  "- " ++ f.severity.mark ++ " **" ++ f.ruleId ++ "** (line " ++ toString f.line ++ "): "
    ++ f.description ++ "\n"
    ++ "  - Matched: `" ++ f.matched ++ "`\n"
    ++ (match f.fix with
        | some fix => "  - Fix: " ++ fix ++ "\n"
        | none => "")
    ++ (match f.correction with
        | some (.resolved title) => "  - See: " ++ title ++ "\n"
        | _ => "")

end Finding

namespace FileReport

/-- The findings in a file as they are shown. -/
def shown (f : FileReport) : String := String.join (f.findings.map (Finding.shown f.path))

/-- The findings in a file in Markdown. -/
def markdown (f : FileReport) : String :=
  "### `" ++ f.path ++ "`\n\n" ++ String.join (f.findings.map Finding.markdown) ++ "\n"

end FileReport

namespace Report

/-- A report as it is shown. -/
def shown (r : Report) : String :=
  Text.banner "Ruleforge Check Report"
    ++ "Version: " ++ r.version.text ++ "\n"
    ++ "Timestamp: " ++ r.timestamp ++ "\n\n"
    ++ "Summary:\n"
    ++ "  Files checked:  " ++ toString r.summary.files ++ "\n"
    ++ "  Total findings: " ++ toString r.summary.total ++ "\n"
    ++ "  Errors:   " ++ toString r.summary.errors ++ "\n"
    ++ "  Warnings: " ++ toString r.summary.warnings ++ "\n\n"
    ++ (if r.files.isEmpty then "✓ No issues found!\n"
        else "Findings:\n" ++ String.join (r.files.map FileReport.shown))
    ++ "\n" ++ Text.rule ++ "\n"

/-- A report in Markdown. -/
def markdown (r : Report) : String :=
  "# Ruleforge Check Report\n\n"
    ++ "**Version:** " ++ r.version.text ++ "\n\n"
    ++ "**Timestamp:** " ++ r.timestamp ++ "\n\n"
    ++ "## Summary\n\n"
    ++ "- Files checked: " ++ toString r.summary.files ++ "\n"
    ++ "- Total findings: " ++ toString r.summary.total ++ "\n"
    ++ "- Errors: " ++ toString r.summary.errors ++ "\n"
    ++ "- Warnings: " ++ toString r.summary.warnings ++ "\n\n"
    ++ (if r.files.isEmpty then "✅ **No issues found!**\n"
        else "## Findings\n\n" ++ String.join (r.files.map FileReport.markdown))

end Report

end Deprecation
