/-
# Settings

What an operator may choose: which catalogue is used, where the store is kept, which prefixes
mark legacy types and how far ids may be numbered, which files are checked, and how often new
releases are looked for.  Everything has a default.

Settings are written in TOML, a group to a table.  Paths in them are looked up from the
directory of the file that they were read from.
-/
import Deprecation.Datum.Decode
import Deprecation.Files.Error
import Deprecation.Files.Path
import Deprecation.Synthesis
import Deprecation.Toml.Printer

namespace Deprecation

/-- What an operator has chosen. -/
structure Settings where
  /-- The catalogue to use in place of the one that is built in. -/
  cataloguePath : Option String := none
  /-- Where the store is kept. -/
  storePath : String := ".ruleforge/state.json"
  /-- The prefixes of legacy types. -/
  legacyPrefixes : List String := ["HB"]
  /-- The largest suffix of an id. -/
  maxSuffix : Nat := 99
  /-- The extensions of the files that are checked. -/
  extensions : List String := ["swift"]
  /-- The seconds between two looks at new releases. -/
  interval : Nat := 300
  /-- The directory that paths are looked up from. -/
  root : String := ""
deriving DecidableEq, Repr, Inhabited

/-- Why settings cannot be read or written. -/
inductive SettingsError where
  /-- The file cannot be read or written. -/
  | file (cause : FileError)
  /-- The text does not describe settings. -/
  | malformed
  /-- A number is too large to be written. -/
  | unwritable
deriving DecidableEq, Repr, Inhabited

/-- What is said of settings that cannot be read or written. -/
def SettingsError.message : SettingsError → String
  | file cause => "IO error: " ++ cause.message
  | malformed => "Parse error: the text describes no settings"
  | unwritable => "Serialize error: a number is out of range"

namespace Settings

/-! ## What follows from settings -/

/-- Where a path leads. -/
def resolve (s : Settings) (path : String) : String :=
  if Path.isAbsolute path then path else Path.join s.root path

/-- Where the store is kept. -/
def storeFile (s : Settings) : String := s.resolve s.storePath

/-- How rules are made. -/
def synthesizer (s : Settings) : Synthesizer := ⟨s.legacyPrefixes, s.maxSuffix⟩

/-- A text with its ASCII capitals made small. -/
def small (t : String) : List Char := t.toList.map Char.toLower

/-- Whether a file is checked: its extension is one of those chosen, in any case. -/
def accepts (s : Settings) (path : String) : Bool :=
  match Path.extension path with
  | some e => s.extensions.any fun chosen => small chosen == small e
  | none => false

/-! ## Written form -/

/-- The groups of settings with their fields. -/
def groups (s : Settings) : List (String × List (String × Datum)) :=
  [("catalog", Datum.optionalField "path" .str s.cataloguePath),
    ("store", [("path", .str s.storePath)]),
    ("synthesis",
      [("legacy_prefixes", .list (s.legacyPrefixes.map .str)),
        ("max_id_suffix", .nat s.maxSuffix)]),
    ("check", [("extensions", .list (s.extensions.map .str))]),
    ("watch", [("interval_secs", .nat s.interval)])]

def toDatum (s : Settings) : Datum :=
  .record (s.groups.map fun g => (g.1, .record g.2))

/-- The fields of a group that may be missing as a whole. -/
def group (g : Datum.Given) (format : Format) (i : Nat) (names : List String) :
    Option Datum.Given :=
  g.withDefault i ⟨false, []⟩ fun d => d.given names format

/-- The settings that a datum describes. -/
def ofDatum (format : Format) (d : Datum) : Option Settings := do
  let g ← d.given ["catalog", "store", "synthesis", "check", "watch"] format
  let plain : Settings := {}
  let catalogue ← group g format 0 ["path"]
  let cataloguePath ← catalogue.withDefault 0 none (Datum.asOption Datum.asText)
  let store ← group g format 1 ["path"]
  let storePath ← store.withDefault 0 plain.storePath Datum.asText
  let synthesis ← group g format 2 ["legacy_prefixes", "max_id_suffix"]
  let legacyPrefixes ←
    synthesis.withDefault 0 plain.legacyPrefixes (Datum.asList Datum.asText)
  let maxSuffix ← synthesis.withDefault 1 plain.maxSuffix (Datum.asNatBelow (Nat.pow 2 32))
  let check ← group g format 3 ["extensions"]
  let extensions ← check.withDefault 0 plain.extensions (Datum.asList Datum.asText)
  let watch ← group g format 4 ["interval_secs"]
  let interval ← watch.withDefault 0 plain.interval (Datum.asNatBelow (Nat.pow 2 64))
  pure { cataloguePath, storePath, legacyPrefixes, maxSuffix, extensions, interval }

/-- The settings that a TOML text describes. -/
def ofToml (text : String) : Except SettingsError Settings :=
  match Toml.ofString text >>= ofDatum .toml with
  | some s => .ok s
  | none => .error .malformed

/-- The statements that describe settings. -/
def statements (s : Settings) : List Toml.Statement :=
  s.groups.flatMap fun g =>
    .header ⟨[], g.1⟩ :: g.2.map fun f => .pair ⟨[], f.1⟩ f.2

/-- Settings as a TOML text. -/
def toToml (s : Settings) : Except SettingsError String :=
  match Toml.write s.statements with
  | some text => .ok text
  | none => .error .unwritable

end Settings

end Deprecation
