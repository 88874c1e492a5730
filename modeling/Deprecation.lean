import Deprecation.Changelog.Document
import Deprecation.Json.Reader
import Deprecation.Json.Printer
import Deprecation.Datum.Decode
import Deprecation.Instant.Printer
import Deprecation.Instant.Reader
import Deprecation.Knowledge
import Deprecation.Report
import Deprecation.RuleId.Slug
import Deprecation.RuleId.Registry
import Deprecation.Keyed
import Deprecation.Unicode.Property
import Deprecation.Unicode.ScriptExtension
import Deprecation.Regex.CharSet
import Deprecation.Regex.Ast
import Deprecation.Regex.Ast.Scanner
import Deprecation.Regex.Ast.Parser
import Deprecation.Regex.Expr.OfAst
import Deprecation.Regex
import Deprecation.TokenPattern
import Deprecation.Snapshot
import Deprecation.Synthesis
import Deprecation.Store.Change
import Deprecation.Store.Persistence
import Deprecation.Check
import Deprecation.Ingest
import Deprecation.Catalogue
import Deprecation.Settings
import Deprecation.Catalogue.Builtin
import Deprecation.Store.File
import Deprecation.Datum.Sorted
import Deprecation.Ingest.Text
import Deprecation.Service
import Deprecation.Command.Run
import Deprecation.Main
import Deprecation.Proofs.Keyed
import Deprecation.Proofs.Store.Run
import Deprecation.Proofs.Store.Coherence
import Deprecation.Proofs.Store.Review
import Deprecation.Proofs.Changelog.Facts
import Deprecation.Proofs.Ingest.Ownership
import Deprecation.Proofs.Ingest.Concord
import Deprecation.Proofs.Store.Restore
import Deprecation.Proofs.Changelog.Headings
import Deprecation.Proofs.Store.Acceptance
import Deprecation.Proofs.Store.Release
import Deprecation.Proofs.Store.OnClock
import Deprecation.Proofs.Service.Sharing
import Deprecation.Proofs.Snapshot.Seal
import Deprecation.Proofs.Check
import Deprecation.Proofs.Store.Active
import Deprecation.Proofs.Ingest.Rejection
import Deprecation.Proofs.Store.Resolution
import Deprecation.Proofs.Store.Commutation
import Deprecation.Proofs.Ingest.Balance
import Deprecation.Proofs.Changelog.Announcement
import Deprecation.Proofs.RuleId.Stability
import Deprecation.Proofs.Changelog.Sections
import Deprecation.Proofs.Store.Interruption
import Deprecation.Proofs.Service.Watching
import Deprecation.Proofs.TokenPattern.Scanner
import Deprecation.Proofs.TokenPattern.OwnText
import Deprecation.Proofs.Changelog.Joining
import Deprecation.Proofs.Command.Checking
import Deprecation.Proofs.Synthesis.Refusal
import Deprecation.Proofs.Store.Loading
import Deprecation.Proofs.Report.Codec
import Deprecation.Proofs.Settings
