/-
# Snapshots

A snapshot is the written form of a store: its static rules in order, its mined rules and its
entries, under a checksum and a format version.  The checksum is the SHA-256 digest of the
contents without blanks, so a snapshot whose contents were changed by hand is refused.

A snapshot comes from outside.  Decoding one says nothing about its rules beyond their form.
-/
import Deprecation.Digest.Sha256
import Deprecation.Json.Printer
import Deprecation.Json.Reader
import Deprecation.Knowledge
import Deprecation.Text.Utf8

namespace Deprecation

/-- What a store holds, as it is written down. -/
structure Contents where
  /-- In the order of declaration. -/
  statics : List StaticRule
  mined : List MinedRule
  entries : List Entry
deriving DecidableEq, Repr, Inhabited

/-- The contents of a store with their format version and checksum. -/
structure Snapshot where
  formatVersion : Nat
  checksum : String
  contents : Contents
deriving DecidableEq, Repr, Inhabited

/-- Why a snapshot is refused. -/
inductive SnapshotError where
  /-- The bytes do not spell a snapshot. -/
  | malformed
  /-- The format version is not the one written here. -/
  | version (found : Nat)
  /-- The checksum is not that of the contents. -/
  | checksum (recorded computed : String)
deriving DecidableEq, Repr, Inhabited

namespace Contents

def toDatum (c : Contents) : Datum :=
  .record
    [("static_rules", .list (c.statics.map StaticRule.toDatum)),
      ("dynamic_rules", .list (c.mined.map MinedRule.toDatum)),
      ("entries", .list (c.entries.map Entry.toDatum))]

def ofDatum (d : Datum) : Option Contents := do
  let g ← d.given ["static_rules", "dynamic_rules", "entries"]
  let statics ← g.required 0 (Datum.asList (StaticRule.ofDatum .json))
  let mined ← g.required 1 (Datum.asList MinedRule.ofDatum)
  let entries ← g.required 2 (Datum.asList (Entry.ofDatum .json))
  pure { statics, mined, entries }

/-- The text whose digest is the checksum. -/
def canonical (c : Contents) : String := Json.compact c.toDatum

/-- The checksum of contents. -/
def checksum (c : Contents) : String := Sha256.hex c.canonical.toUTF8.toList

end Contents

namespace Snapshot

/-- The format version of snapshots made here. -/
def currentVersion : Nat := 1

/-- The snapshot of contents. -/
def ofContents (c : Contents) : Snapshot := ⟨currentVersion, c.checksum, c⟩

def toDatum (s : Snapshot) : Datum :=
  .record
    [("format_version", .nat s.formatVersion), ("checksum", .str s.checksum),
      ("state", s.contents.toDatum)]

def ofDatum (d : Datum) : Option Snapshot := do
  let g ← d.given ["format_version", "checksum", "state"]
  let formatVersion ← g.required 0 (Datum.asNatBelow (Nat.pow 2 32))
  let checksum ← g.required 1 Datum.asText
  let contents ← g.required 2 Contents.ofDatum
  pure { formatVersion, checksum, contents }

/-- The text of a snapshot. -/
def text (s : Snapshot) : String := Json.indented s.toDatum

/-- The bytes of a snapshot. -/
def encode (s : Snapshot) : ByteArray := s.text.toUTF8

/-- The snapshot that bytes spell, whether or not it is to be trusted. -/
def read (bytes : ByteArray) : Option Snapshot :=
  Json.read (Text.charsOfBytes bytes) >>= ofDatum

/-- Accepts a snapshot of the current version with the checksum of its contents. -/
def verify (s : Snapshot) : Except SnapshotError Snapshot :=
  if s.formatVersion ≠ currentVersion then .error (.version s.formatVersion)
  else if s.contents.checksum ≠ s.checksum then
    .error (.checksum s.checksum s.contents.checksum)
  else .ok s

/-- The snapshot that bytes spell, if it is to be trusted. -/
def decode (bytes : ByteArray) : Except SnapshotError Snapshot :=
  match read bytes with
  | none => .error .malformed
  | some s => s.verify

end Snapshot

/-- What is said of a snapshot that is refused. -/
def SnapshotError.message : SnapshotError → String
  | malformed => "the snapshot is malformed"
  | version found =>
    "unsupported format version " ++ toString found ++ " (expected "
      ++ toString Snapshot.currentVersion ++ ")"
  | checksum recorded computed =>
    "checksum mismatch: recorded " ++ recorded ++ ", computed " ++ computed

end Deprecation
