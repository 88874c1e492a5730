/-
# Running commands

A command shows a text and succeeds or fails.  A check also fails, without a message, when it
finds an error in some file.  What a command changes, in the store or on the disk, it has
changed by the time it gives its outcome; a watch gives instead what it starts from.
-/
import Deprecation.Command
import Deprecation.Datum.Sorted
import Deprecation.Instant.Printer
import Deprecation.Watch

namespace Deprecation

/-- What comes of a command. -/
structure Outcome where
  /-- What is shown. -/
  shown : String
  /-- Why the command failed. -/
  failure : Option String := none
  /-- Whether a check has found errors. -/
  blocking : Bool := false
  /-- What is told of the progress to an operator who wants to know. -/
  notes : List String := []
deriving DecidableEq, Repr, Inhabited

namespace Outcome

/-- The outcome of a command that failed after it has shown something. -/
def failed (why : String) (shown : String := "") : Outcome := { shown, failure := some why }

/-- The exit code of the program. -/
def exitCode (o : Outcome) : Nat := if o.failure.isSome || o.blocking then 1 else 0

end Outcome

/-- What running a command leads to. -/
inductive Progress where
  /-- The command has ended. -/
  | ended (o : Outcome)
  /-- The directory is to be watched, with so many seconds between two looks. -/
  | watching (w : Watch) (directory : String) (interval : Nat)

namespace Command

variable {m : Type → Type} [Monad m] [Disk m]

/-! ## Checking files -/

/-- The files to check: files that are named, and those below named directories with one of
the extensions chosen. -/
def sources (s : Settings) : List String → m (List String)
  | [] => pure []
  | path :: rest => do
    let here ←
      if ← Disk.isFile path then pure [path]
      else do
        let files ← Disk.files path none
        pure (files.filter s.accepts)
    let others ← sources s rest
    pure (here ++ others)

/-- The results for the files that can be read. -/
def results (x : Service) : List String → m (List (String × CheckResult))
  | [] => pure []
  | path :: rest => do
    match ← (Disk.readText path).run with
    | .ok text => do
      let others ← results x rest
      pure ((path, x.check text) :: others)
    | .error _ => results x rest

/-- Writes a text if a path for it was given. -/
def writeIfWanted (path : Option String) (text : String) : ExceptT FileError m Unit :=
  match path with
  | some path => Disk.writeText path text
  | none => pure ()

/-- Checks files. -/
def runCheck (x : Service) (clock : Clock) (paths : List String)
    (json markdown : Option String) : m Outcome := do
  let files ← sources x.settings paths
  let found ← results x files
  let report := (Report.empty clock.now.toReportText).addFiles found
  let notes :=
    ["Checking " ++ toString files.length ++ " files against "
      ++ toString x.store.active.length ++ " rules"]
  let written ← (do
    writeIfWanted json (Json.indented report.toDatum)
    writeIfWanted markdown report.markdown : ExceptT FileError m Unit).run
  match written with
  | .error e => pure (.failed e.message)
  | .ok () => pure { shown := report.shown, blocking := report.blocking, notes }

/-! ## Working with the store -/

/-- Keeps the store.  Fails after something was shown. -/
def persisted (x : Service) (shown : String) (orElse : String) : m Outcome := do
  match ← x.persist.run with
  | .ok () => pure { shown }
  | .error e => pure (.failed e.message orElse)

/-- Ingests release notes. -/
def runIngest (x : Service) (clock : Clock) (file : String) (form : NotesForm) : m Outcome := do
  match ← (Disk.readText file).run with
  | .error e => pure (.failed ("Failed to read " ++ file ++ ": " ++ e.message))
  | .ok text =>
    let (report, x, _) := match form with
      | .release version => x.ingest text version clock
      | .document => x.ingestDocument text clock
    persisted x report.shown report.shown

/-- Reviews a rule. -/
def runReview (x : Service) (id : String) (d : Decision) : m Outcome := do
  match x.review id d with
  | .error e => pure (.failed e.message)
  | .ok (r, x) =>
    persisted x ("✓ " ++ r.id ++ " is now " ++ r.status.name ++ "\n") ""

/-! ## Listing rules -/

/-- The static rules that are listed. -/
def listedStatics (s : Store) : Option RuleFilter → List StaticRule
  | none | some .static => s.statics
  | some (.mined _) => []

/-- The mined rules that are listed. -/
def listedMined (s : Store) : Option RuleFilter → List MinedRule
  | none => s.mined.values
  | some .static => []
  | some (.mined status) => s.mined.values.filter (·.status = status)

/-- A static rule as it is listed. -/
def staticLine (r : StaticRule) : String :=
  "  [" ++ r.severity.label ++ "] " ++ r.id ++ ": " ++ r.description ++ "\n"

/-- A mined rule as it is listed. -/
def minedLine (r : MinedRule) : String :=
  "  [" ++ r.severity.label ++ "] " ++ r.id ++ " (" ++ r.status.name ++ ", release "
    ++ r.release ++ "): " ++ r.description ++ "\n"

/-- The list of rules as it is shown. -/
def listing (statics : List StaticRule) (mined : List MinedRule) : String :=
  (if statics.isEmpty then ""
    else "Static rules:\n" ++ String.join (statics.map staticLine) ++ "\n")
  ++ (if mined.isEmpty then ""
    else "Synthesized rules:\n" ++ String.join (mined.map minedLine))
  ++ (if statics.isEmpty && mined.isEmpty then "No rules match\n" else "")

/-- The list of rules as data. -/
def listingDatum (statics : List StaticRule) (mined : List MinedRule) : Datum :=
  .record
    [("static", .list (statics.map StaticRule.toDatum)),
      ("dynamic", .list (mined.map MinedRule.toDatum))]

/-- Lists rules. -/
def runRules (x : Service) (filter : Option RuleFilter) (asJson : Bool) : Outcome :=
  let statics := listedStatics x.store filter
  let mined := listedMined x.store filter
  { shown :=
      if asJson then Json.indented (listingDatum statics mined).sorted ++ "\n"
      else listing statics mined }

end Command

namespace Invocation

variable {m : Type → Type} [Monad m] [Disk m]

/-- The file that settings are read from when no other one is named. -/
def usualConfig : String := "ruleforge.toml"

/-- The settings for a command: those of the file that is named, or of the usual file if it
is there. -/
def settings (config : Option String) : ExceptT SettingsError m Settings :=
  match config with
  | some path => Settings.load path
  | none => do
    let isThere ← ExceptT.lift do
      if ← Disk.isFile usualConfig then pure true else Disk.isDirectory usualConfig
    if isThere then Settings.load usualConfig else pure {}

/-- The service for a command, or what is said when it does not open. -/
def service (config : Option String) : ExceptT String m Service := do
  let s ← ExceptT.adapt SettingsError.message (settings config)
  ExceptT.adapt ServiceError.message (Service.start s)

/-- Runs a command with an open service. -/
def runWith (x : Service) (clock : Clock) : Command → m Progress
  | .check paths json markdown => .ended <$> Command.runCheck x clock paths json markdown
  | .ingest file form => .ended <$> Command.runIngest x clock file form
  | .review id d => .ended <$> Command.runReview x id d
  | .rules filter asJson => pure (.ended (Command.runRules x filter asJson))
  | .watch directory interval => do
    if ← Disk.isDirectory directory then
      pure (.watching ⟨x, []⟩ directory (max 1 (interval.getD x.settings.interval)))
    else pure (.ended (.failed ("Not a directory: " ++ directory)))

/-- Runs a command. -/
def run (i : Invocation) (clock : Clock) : m Progress := do
  match ← (service i.config).run with
  | .error why => pure (.ended (.failed why))
  | .ok x => runWith x clock i.command

end Invocation

end Deprecation
