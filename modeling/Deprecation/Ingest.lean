/-
# Ingesting releases

A cycle of ingestion reads the notes of one or more releases, makes a draft rule of each
deprecation record and submits it to the store.  Nothing that goes wrong with one record keeps
the others from being tried: a record that becomes no rule and a rule that the store refuses
are listed in the report.

The ids come from a registry that starts from what the store holds.  So a fact that has a rule
already gets that rule's id again, and the store finds nothing new in it.

Cycles follow one another.  One that is asked for while another one is going on would have to do
nothing and say so; there is never a second one here, and this outcome is left out.
-/
import Deprecation.Changelog.Document
import Deprecation.Clock
import Deprecation.Store.Change
import Deprecation.Synthesis

namespace Deprecation

/-- A rule that the store refused. -/
structure Refusal where
  ruleId : String
  reason : String
deriving DecidableEq, Repr, Inhabited

/-- What came of a cycle. -/
structure IngestReport where
  /-- The releases that gave at least one record. -/
  releases : List String
  /-- What was read, over all releases. -/
  tally : Changelog.Tally
  /-- How many records were given. -/
  records : Nat
  inserted : Nat
  replaced : Nat
  unchanged : Nat
  /-- Why records became no rules. -/
  unsynthesized : List SynthesisError
  /-- What the store refused. -/
  refused : List Refusal
deriving DecidableEq, Repr, Inhabited

namespace IngestReport

/-- The report of a cycle in which nothing was read. -/
def empty : IngestReport := ⟨[], ⟨0, 0, 0⟩, 0, 0, 0, 0, [], []⟩

/-- The report of one cycle and then another. -/
def append (a b : IngestReport) : IngestReport :=
  { releases := a.releases ++ b.releases
    tally := a.tally + b.tally
    records := a.records + b.records
    inserted := a.inserted + b.inserted
    replaced := a.replaced + b.replaced
    unchanged := a.unchanged + b.unchanged
    unsynthesized := a.unsynthesized ++ b.unsynthesized
    refused := a.refused ++ b.refused }

instance : Append IngestReport := ⟨append⟩

/-- How many rules are new or changed. -/
def accepted (r : IngestReport) : Nat := r.inserted + r.replaced

/-- How many records did not get into the store. -/
def rejected (r : IngestReport) : Nat := r.unsynthesized.length + r.refused.length

end IngestReport

/-! ## One record -/

namespace Ingest

/-- What a cycle goes on with: the store so far, the ids given so far, and the clock. -/
structure State where
  store : Store
  registry : Registry
  clock : Clock

/-- The registry that a store leads to: static ids are reserved, and mined rules hold theirs. -/
def registryOf (z : Synthesizer) (s : Store) : Registry :=
  s.mined.values.foldl Registry.record
    (s.statics.foldl (fun g r => g.reserve r.id) z.registry)

/-- Submits a rule.  Reports what became of it. -/
def submit (s : Store) (r : MinedRule) : IngestReport × Store :=
  match s.submit r with
  | .ok (.inserted, s) => ({ IngestReport.empty with inserted := 1 }, s)
  | .ok (.replaced, s) => ({ IngestReport.empty with replaced := 1 }, s)
  | .ok (.unchanged, s) => ({ IngestReport.empty with unchanged := 1 }, s)
  | .error e => ({ IngestReport.empty with refused := [⟨r.id, e.message⟩] }, s)

/-- Makes a rule of a record and submits it.  This takes one reading of the clock. -/
def record (z : Synthesizer) (st : State) (r : Record) : IngestReport × State :=
  let clock := st.clock.after 1
  match z.synthesize st.registry st.clock.now r with
  | .error e =>
    ({ IngestReport.empty with records := 1, unsynthesized := [e] }, { st with clock })
  | .ok (rule, registry) =>
    let (report, store) := submit st.store rule
    ({ report with records := 1 }, { store, registry, clock })

/-! ## Many records -/

/-- Goes through a list with a step that reports. -/
def steps {α : Type} (step : State → α → IngestReport × State) (st : State) :
    List α → IngestReport × State
  | [] => (.empty, st)
  | a :: rest =>
    let (first, st) := step st a
    let (others, st) := steps step st rest
    (first ++ others, st)

/-- A release that was read: its version, its records and what was counted. -/
structure Release where
  version : String
  records : List Record
  tally : Changelog.Tally

/-- The release whose notes are a text. -/
def Release.ofNotes (text version : String) : Release :=
  ⟨String.ofList (Text.trim version.toList), Changelog.records text version,
    Changelog.tally text version⟩

/-- The releases of a document. -/
def Release.ofDocument (text : String) : List Release :=
  (Changelog.sections text).map fun s =>
    ⟨s.version, Changelog.records s.body s.version, Changelog.tally s.body s.version⟩

/-- What is reported of a release before its records are looked at. -/
def Release.heading (r : Release) : IngestReport :=
  { IngestReport.empty with
    releases := if r.records.isEmpty then [] else [r.version]
    tally := r.tally }

/-- Ingests the records of a release. -/
def release (z : Synthesizer) (st : State) (r : Release) : IngestReport × State :=
  let (report, st) := steps (record z) st r.records
  (r.heading ++ report, st)

/-- A cycle over some releases. -/
def cycle (z : Synthesizer) (releases : List Release) (s : Store) (clock : Clock) :
    IngestReport × Store × Clock :=
  let (report, st) := steps (release z) ⟨s, registryOf z s, clock⟩ releases
  (report, st.store, st.clock)

end Ingest

namespace Store

/-- Ingests the notes of one release. -/
def ingest (z : Synthesizer) (text version : String) (s : Store) (clock : Clock) :
    IngestReport × Store × Clock :=
  Ingest.cycle z [.ofNotes text version] s clock

/-- Ingests all releases of a changelog. -/
def ingestDocument (z : Synthesizer) (text : String) (s : Store) (clock : Clock) :
    IngestReport × Store × Clock :=
  Ingest.cycle z (Ingest.Release.ofDocument text) s clock

end Store

end Deprecation
