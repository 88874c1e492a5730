/-
# Reports of ingestion as they are read
-/
import Deprecation.Ingest
import Deprecation.Report.Text

namespace Deprecation.IngestReport

/-- What was refused, a line for each record or rule. -/
def refusals (r : IngestReport) : String :=
  String.join
    (r.unsynthesized.map (fun e => "    - " ++ e.message ++ "\n")
      ++ r.refused.map fun x => "    - " ++ x.ruleId ++ ": " ++ x.reason ++ "\n")

/-- A report of ingestion as it is shown. -/
def shown (r : IngestReport) : String :=
  Text.banner "Ingestion Report"
    ++ "Releases: "
    ++ (if r.releases.isEmpty then "(none with deprecations)"
        else String.intercalate ", " r.releases) ++ "\n"
    ++ "Lines scanned: " ++ toString r.tally.scanned ++ " (" ++ toString r.tally.matched
    ++ " matched, " ++ toString r.tally.repeated ++ " duplicates)\n\n"
    ++ "Summary:\n"
    ++ "  Records:   " ++ toString r.records ++ "\n"
    ++ "  Inserted:  " ++ toString r.inserted ++ "\n"
    ++ "  Replaced:  " ++ toString r.replaced ++ "\n"
    ++ "  Unchanged: " ++ toString r.unchanged ++ "\n"
    ++ "  Rejected:  " ++ toString r.rejected ++ "\n" ++ r.refusals
    ++ (if r.accepted = 0 then ""
        else "\nNew draft rules await review (ruleforge rules --status draft)\n")
    ++ "\n" ++ Text.rule ++ "\n"

end Deprecation.IngestReport
