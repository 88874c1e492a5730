/-
# Documents, section by section

A changelog of many releases is ingested in one cycle: its registry is made once, from the store
at the start, and passed from release to release.  The notes of a single release are ingested
in a cycle of their own, with a registry that is made afresh.  As the registry keeps up with the
store, the two come to the same: a document is ingested as if each of its sections had been
ingested by itself, one after the other, and what is reported is what these cycles report
together.
-/
import Mathlib
import Deprecation.Proofs.Changelog.Headings
import Deprecation.Proofs.Ingest.Registry

namespace Deprecation

namespace Changelog.Tally

/-- Tallies added up. -/
def sum (tallies : List Tally) : Tally where
  scanned := (tallies.map Tally.scanned).sum
  matched := (tallies.map Tally.matched).sum
  repeated := (tallies.map Tally.repeated).sum

lemma sum_cons (t : Tally) (tallies : List Tally) : sum (t :: tallies) = t + sum tallies := by
  simp only [sum, List.map_cons, List.sum_cons]
  rfl

/-- Where no tally has more matches than lines, the lines without a match add up too. -/
lemma skipped_sum {tallies : List Tally} (h : ∀ t ∈ tallies, t.matched ≤ t.scanned) :
    (sum tallies).skipped = (tallies.map Tally.skipped).sum := by
  have hsum : (sum tallies).matched ≤ (sum tallies).scanned ∧
      (sum tallies).skipped = (tallies.map Tally.skipped).sum := by
    induction tallies with
    | nil => exact ⟨le_rfl, rfl⟩
    | cons t tallies ih =>
      have ht := h t List.mem_cons_self
      have hrest := ih fun t' ht' => h t' (List.mem_cons_of_mem t ht')
      simp only [sum_cons, skipped, scanned_add, matched_add, List.map_cons, List.sum_cons] at *
      omega
  exact hsum.2

end Changelog.Tally

/-- A line announces at most one record. -/
lemma Changelog.matched_le_scanned (body release : String) :
    (Changelog.tally body release).matched ≤ (Changelog.tally body release).scanned :=
  List.length_filterMap_le _ _

namespace IngestReport

/-- The reports of some cycles together: what is counted is added up, and what is listed is
put one after the other. -/
def combined (reports : List IngestReport) : IngestReport where
  releases := reports.flatMap IngestReport.releases
  tally := .sum (reports.map IngestReport.tally)
  records := (reports.map IngestReport.records).sum
  inserted := (reports.map IngestReport.inserted).sum
  replaced := (reports.map IngestReport.replaced).sum
  unchanged := (reports.map IngestReport.unchanged).sum
  unsynthesized := reports.flatMap IngestReport.unsynthesized
  refused := reports.flatMap IngestReport.refused

@[simp] lemma combined_cons (report : IngestReport) (reports : List IngestReport) :
    combined (report :: reports) = report ++ combined reports := by
  simp only [combined, append_eq, append, List.map_cons, List.flatMap_cons, List.sum_cons,
    Changelog.Tally.sum_cons]

lemma tally_append (a b : IngestReport) : (a ++ b).tally = a.tally + b.tally := rfl

lemma accepted_combined (reports : List IngestReport) :
    (combined reports).accepted = (reports.map accepted).sum := by
  induction reports with
  | nil => rfl
  | cons report reports ih =>
    rw [List.map_cons, List.sum_cons, ← ih]
    simp only [combined_cons, append_eq, append, accepted]
    omega

lemma rejected_combined (reports : List IngestReport) :
    (combined reports).rejected = (reports.map rejected).sum := by
  induction reports with
  | nil => rfl
  | cons report reports ih =>
    rw [List.map_cons, List.sum_cons, ← ih]
    simp only [combined_cons, append_eq, append, rejected, List.length_append]
    omega

end IngestReport

namespace Ingest

variable {z : Synthesizer} {s : Store}

/-- The release of a section. -/
def Release.ofSection (x : Changelog.Section) : Release :=
  ⟨x.version, Changelog.records x.body x.version, Changelog.tally x.body x.version⟩

lemma ofDocument_eq (text : String) :
    Release.ofDocument text = (Changelog.sections text).map Release.ofSection := rfl

/-- The notes of a section are those of a release with its version. -/
lemma ofNotes_of_mem_sections {text : String} {x : Changelog.Section}
    (h : x ∈ Changelog.sections text) :
    Release.ofNotes x.body x.version = Release.ofSection x := by
  rw [Release.ofNotes, ← Text.trimmed, Changelog.trimmed_version h, Release.ofSection]

/-- A release ends in a state in which a cycle could start. -/
lemma release_start (h : s.Coherent) (z : Synthesizer) (clock : Clock) (r : Release) :
    ∃ report t clock', release z (start z s clock) r = (report, start z t clock') ∧
      t.Coherent := by
  obtain ⟨t, ht, -, heq⟩ := pass_start (P := fun _ => True)
    (fun _ _ _ _ _ _ _ => trivial) h trivial clock r.records
  refine ⟨(release z (start z s clock) r).1, t, clock.after r.records.length, ?_, ht⟩
  rw [← heq, ← release_snd]

lemma ingest_of_release {text version : String} {clock : Clock} {report : IngestReport}
    {st : State}
    (h : release z (start z s clock) (.ofNotes text version) = (report, st)) :
    s.ingest z text version clock = (report, st.store, st.clock) := by
  rw [start] at h
  rw [Store.ingest, cycle, steps, h]
  simp [steps]

/-! ## What is counted -/

lemma tally_submit (s : Store) (r : MinedRule) : (submit s r).1.tally = ⟨0, 0, 0⟩ := by
  rw [submit]
  split <;> rfl

lemma tally_record (z : Synthesizer) (st : State) (r : Record) :
    (record z st r).1.tally = ⟨0, 0, 0⟩ := by
  cases h : z.synthesize st.registry st.clock.now r with
  | error e =>
    rw [record_of_error st h]
    dsimp only [IngestReport.empty]
  | ok p =>
    rw [record_of_ok st h]
    dsimp only [IngestReport.ofRecord]
    exact tally_submit st.store p.1

lemma tally_steps_record (z : Synthesizer) (st : State) (records : List Record) :
    (steps (record z) st records).1.tally = ⟨0, 0, 0⟩ := by
  induction records generalizing st with
  | nil => rfl
  | cons r records ih =>
    rw [steps, IngestReport.tally_append, tally_record, ih]
    rfl

/-- The tally of a release is made where its lines are read. -/
lemma tally_release (z : Synthesizer) (st : State) (r : Release) :
    (release z st r).1.tally = r.tally := by
  rw [release, IngestReport.tally_append, tally_steps_record]
  rfl

end Ingest

namespace Store

open Changelog (Section sections)

/-- Ingests sections one by one, each as the notes of a release.  Gives what is reported of
each. -/
def ingestSections (z : Synthesizer) (s : Store) (clock : Clock) :
    List Section → List IngestReport × Store × Clock
  | [] => ([], s, clock)
  | x :: rest =>
    let (report, s, clock) := s.ingest z x.body x.version clock
    let (reports, s, clock) := ingestSections z s clock rest
    (report :: reports, s, clock)

/-- The cycle over some sections does what their own cycles do. -/
lemma steps_release_eq {s : Store} (h : s.Coherent) (z : Synthesizer) {sections : List Section}
    (hsections : ∀ x ∈ sections,
      Ingest.Release.ofNotes x.body x.version = Ingest.Release.ofSection x) (clock : Clock) :
    ∃ reports t clock', s.ingestSections z clock sections = (reports, t, clock') ∧
      Ingest.steps (Ingest.release z) (Ingest.start z s clock)
        (sections.map Ingest.Release.ofSection)
          = (.combined reports, Ingest.start z t clock') := by
  induction sections generalizing s clock with
  | nil => exact ⟨[], s, clock, rfl, rfl⟩
  | cons x sections ih =>
    -- where the first section ends, the registry is the one that the store would give
    obtain ⟨report, t, middle, hrelease, ht⟩ := Ingest.release_start h z clock (.ofSection x)
    have hnotes : Ingest.release z (Ingest.start z s clock) (.ofNotes x.body x.version)
        = (report, Ingest.start z t middle) := by
      rw [hsections x List.mem_cons_self, hrelease]
    obtain ⟨reports, u, clock', hrest, hsteps⟩ :=
      ih ht (fun y hy => hsections y (List.mem_cons_of_mem x hy)) middle
    refine ⟨report :: reports, u, clock', ?_, ?_⟩
    · rw [ingestSections, Ingest.ingest_of_release hnotes]
      simp only [Ingest.start, hrest]
    · rw [List.map_cons, Ingest.steps, hrelease]
      simp only [hsteps, IngestReport.combined_cons]

lemma tally_ingest (z : Synthesizer) (text version : String) (s : Store) (clock : Clock) :
    (s.ingest z text version clock).1.tally = Changelog.tally text version := by
  have htally := Ingest.tally_release z (Ingest.start z s clock) (.ofNotes text version)
  cases hrelease : Ingest.release z (Ingest.start z s clock) (.ofNotes text version) with
  | mk report st =>
    rw [hrelease] at htally
    rw [Ingest.ingest_of_release hrelease]
    exact htally

lemma tallies_ingestSections (z : Synthesizer) (s : Store) (clock : Clock)
    (sections : List Section) :
    (s.ingestSections z clock sections).1.map IngestReport.tally
      = sections.map fun x => Changelog.tally x.body x.version := by
  induction sections generalizing s clock with
  | nil => rfl
  | cons x sections ih =>
    simp only [ingestSections, List.map_cons, tally_ingest, ih]

/-- **A document is its sections.**  After any run, to ingest a document is to ingest its
sections one after the other as the notes of their releases: the store is the same at the end,
as many readings of the clock have been taken, and the report is that of all the cycles
together.  So is what a report derives from its numbers. -/
theorem ingestDocument_eq_ingestSections (ops : List Op) (z : Synthesizer) (text : String)
    (clock : Clock) :
    let (reports, s, clock') := (empty.run ops).ingestSections z clock (sections text)
    let (report, s', clock'') := (empty.run ops).ingestDocument z text clock
    s' = s ∧ clock'' = clock' ∧ report = .combined reports ∧
      report.accepted = (reports.map IngestReport.accepted).sum ∧
      report.rejected = (reports.map IngestReport.rejected).sum ∧
      report.tally.skipped = (reports.map fun r => r.tally.skipped).sum := by
  obtain ⟨reports, t, clock', hsections, hsteps⟩ := steps_release_eq (coherent_run ops) z
    (fun x (hx : x ∈ sections text) => Ingest.ofNotes_of_mem_sections hx) clock
  have hdocument : (empty.run ops).ingestDocument z text clock
      = (.combined reports, t, clock') := by
    rw [Ingest.start] at hsteps
    rw [ingestDocument, Ingest.cycle, Ingest.ofDocument_eq, hsteps]
    rfl
  -- the lines without a match are a difference, which adds up since no tally is short of lines
  have htallies := tallies_ingestSections z (empty.run ops) clock (sections text)
  rw [hsections] at htallies ⊢
  rw [hdocument]
  refine ⟨rfl, rfl, rfl, IngestReport.accepted_combined reports,
    IngestReport.rejected_combined reports, ?_⟩
  have hmatched : ∀ t ∈ reports.map IngestReport.tally, t.matched ≤ t.scanned := by
    rw [htallies]
    intro t ht
    obtain ⟨x, -, rfl⟩ := List.mem_map.mp ht
    exact Changelog.matched_le_scanned x.body x.version
  have hskipped := Changelog.Tally.skipped_sum hmatched
  rw [List.map_map] at hskipped
  exact hskipped

end Store
end Deprecation
