/-
# Catalogues

A catalogue is the part of the rules that is written by hand: knowledge entries, and static
rules that refer to them.  It is written in TOML, an entry or a rule to a table.  The order of
the rules is kept, since it is the order of findings.
-/
import Deprecation.Files.Error
import Deprecation.Knowledge
import Deprecation.Toml.Reader

namespace Deprecation

/-- Entries and the rules that refer to them. -/
structure Catalogue where
  entries : List Entry
  /-- In the order of findings. -/
  rules : List StaticRule
deriving DecidableEq, Repr, Inhabited

/-- Why a catalogue is refused. -/
inductive CatalogueError where
  /-- It cannot be read. -/
  | file (path : String) (cause : FileError)
  /-- Its text is no catalogue. -/
  | malformed
  /-- Two entries have the same id. -/
  | duplicateEntry (id : String)
  /-- Two rules have the same id. -/
  | duplicateRule (id : String)
  /-- A rule refers to an entry that is not there. -/
  | danglingCorrection (id entry : String)
deriving DecidableEq, Repr, Inhabited

/-- What is said of a catalogue that is refused. -/
def CatalogueError.message : CatalogueError → String
  | file path cause => "IO error: " ++ path ++ ": " ++ cause.message
  | malformed => "Parse error: the text is no catalogue"
  | duplicateEntry id => "Duplicate knowledge entry id: " ++ id
  | duplicateRule id => "Duplicate rule id: " ++ id
  | danglingCorrection id entry =>
    "Rule '" ++ id ++ "' references unknown knowledge entry '" ++ entry ++ "'"

namespace Catalogue

def toDatum (c : Catalogue) : Datum :=
  .record
    [("entry", .list (c.entries.map Entry.toDatum)),
      ("rule", .list (c.rules.map StaticRule.toDatum))]

/-- The catalogue that a datum describes; there may be no entries or no rules. -/
def ofDatum (format : Format) (d : Datum) : Option Catalogue := do
  let g ← d.given ["entry", "rule"] format
  let entries ← g.withDefault 0 [] (Datum.asList (Entry.ofDatum format))
  let rules ← g.withDefault 1 [] (Datum.asList (StaticRule.ofDatum format))
  pure { entries, rules }

/-! ## Validation -/

/-- The first text that a list repeats. -/
def firstRepeated (seen : List String) : List String → Option String
  | [] => none
  | id :: rest => if id ∈ seen then some id else firstRepeated (id :: seen) rest

/-- The first fault of some rules: an id seen before, or a reference to none of the
entries. -/
def ruleFault (entries : List Entry) : List String → List StaticRule → Option CatalogueError
  | _, [] => none
  | seen, r :: rest =>
    if r.id ∈ seen then some (.duplicateRule r.id)
    else match r.correction.filter fun c => !entries.any (·.id == c) with
      | some c => some (.danglingCorrection r.id c)
      | none => ruleFault entries (r.id :: seen) rest

/-- Refuses a catalogue in which an id occurs twice or a reference leads nowhere. -/
def validate (c : Catalogue) : Except CatalogueError Unit :=
  match firstRepeated [] (c.entries.map Entry.id) with
  | some id => .error (.duplicateEntry id)
  | none => match ruleFault c.entries [] c.rules with
    | some e => .error e
    | none => .ok ()

/-- The catalogue that a TOML text describes. -/
def ofToml (text : String) : Except CatalogueError Catalogue :=
  match Toml.ofString text >>= ofDatum .toml with
  | none => .error .malformed
  | some c => c.validate.map fun _ => c

end Catalogue

end Deprecation
