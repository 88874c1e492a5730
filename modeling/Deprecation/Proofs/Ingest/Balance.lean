/-
# Nothing is lost in an ingestion

The numbers in the report of a cycle come from different places: lines, matches and repetitions
are counted where the notes are read, records where they are gone through, and what became of
them where a rule is made and where it is submitted.  This file shows that they agree.  Every
line is counted once, every line that states a fact anew gives a record, and every record comes
out in one of five ways: its rule is inserted, replaces a draft, or is there already, or no rule
is made of it, or the store refuses the rule.

A reader who goes through the lines and counts as it goes is set beside the declarative tally
of a release, so that what is balanced are counts of single lines and not differences.
-/
import Mathlib
import Deprecation.Proofs.Changelog.Facts
import Deprecation.Proofs.Ingest.Document
import Deprecation.Proofs.Store.Active

namespace Deprecation

open Text

/-! ## Line by line -/

namespace Record

/-- What is known counts, and not the order in which it became known. -/
lemma firstStatements_congr {known known' : List Record}
    (h : ∀ r : Record, known.any r.sameFact = known'.any r.sameFact) (l : List Record) :
    firstStatements known l = firstStatements known' l := by
  induction l generalizing known known' with
  | nil => rfl
  | cons r rest ih =>
    rw [firstStatements, firstStatements, h r]
    split
    · exact ih h
    · refine congrArg (r :: ·) (ih fun r' => ?_)
      rw [List.any_cons, List.any_cons, h r']

end Record

namespace Changelog

lemma Tally.add_mk (t : Tally) (a b c n m k : ℕ) :
    t + ⟨a, b, c⟩ + ⟨n, m, k⟩ = t + ⟨a + n, b + m, c + k⟩ := by
  show Tally.mk _ _ _ = Tally.mk _ _ _
  simp only [Tally.scanned_add, Tally.matched_add, Tally.repeated_add, Nat.add_assoc]

lemma Tally.zero_add (t : Tally) : ⟨0, 0, 0⟩ + t = t := by
  show Tally.mk _ _ _ = t
  simp only [Nat.zero_add]

/-- What a reader has after some lines: the records so far, and the counts so far. -/
structure Reader where
  records : List Record
  tally : Tally

namespace Reader

/-- Reads one more line, and counts it. -/
def line (release : String) (x : Reader) (line : List Char) : Reader :=
  match recordOf release line with
  | none => { x with tally := x.tally + ⟨1, 0, 0⟩ }
  | some r =>
    if x.records.any r.sameFact then { x with tally := x.tally + ⟨1, 1, 1⟩ }
    else ⟨x.records ++ [r], x.tally + ⟨1, 1, 0⟩⟩

/-- Reads the body of a release from the first line to the last. -/
def read (body release : String) : Reader :=
  (lines body.toList).foldl (line (trimmed release)) ⟨[], ⟨0, 0, 0⟩⟩

/-- No more lines match than are read, and each match is a record or a repetition. -/
structure Balanced (x : Reader) : Prop where
  matched_le : x.tally.matched ≤ x.tally.scanned
  records : x.records.length + x.tally.repeated = x.tally.matched

lemma Balanced.line {x : Reader} (h : x.Balanced) (release : String) (l : List Char) :
    (x.line release l).Balanced := by
  obtain ⟨hmatched, hrecords⟩ := h
  rw [Reader.line]
  split
  · exact ⟨by simp only [Tally.scanned_add, Tally.matched_add]; omega, hrecords⟩
  · split
    · constructor
      · simp only [Tally.scanned_add, Tally.matched_add]
        omega
      · simp only [Tally.repeated_add, Tally.matched_add]
        omega
    · constructor
      · simp only [Tally.scanned_add, Tally.matched_add]
        omega
      · simp only [Tally.repeated_add, Tally.matched_add, List.length_append, List.length_singleton]
        omega

theorem balanced_read (body release : String) : (read body release).Balanced := by
  have hstart : Balanced ⟨[], ⟨0, 0, 0⟩⟩ := ⟨le_rfl, rfl⟩
  rw [read]
  generalize lines body.toList = ls, (⟨[], ⟨0, 0, 0⟩⟩ : Reader) = x at hstart
  induction ls generalizing x with
  | nil => exact hstart
  | cons l ls ih => exact ih _ (hstart.line (trimmed release) l)

/-- Going on from some records, a reader adds those that are stated for the first time, and
counts the others as repetitions. -/
lemma foldl_line (release : String) (ls : List (List Char)) (x : Reader) :
    ls.foldl (line release) x =
      let stated := ls.filterMap (recordOf release)
      let new := Record.firstStatements x.records stated
      ⟨x.records ++ new, x.tally + ⟨ls.length, stated.length, stated.length - new.length⟩⟩ := by
  induction ls generalizing x with
  | nil =>
    dsimp only [List.foldl_nil, List.filterMap_nil, Record.firstStatements]
    rw [List.append_nil]
    rfl
  | cons l ls ih =>
    have hshorter : ∀ known : List Record,
        (Record.firstStatements known (ls.filterMap (recordOf release))).length
          ≤ (ls.filterMap (recordOf release)).length :=
      fun known => (Record.sublist_firstStatements known _).length_le
    rw [List.foldl_cons, ih, line]
    cases hl : recordOf release l with
    | none =>
      dsimp only
      rw [List.filterMap_cons_none hl, Tally.add_mk, List.length_cons]
      simp only [Nat.zero_add, Nat.add_comm 1]
    | some r =>
      dsimp only
      rw [List.filterMap_cons_some hl, Record.firstStatements]
      split
      · have := hshorter x.records
        dsimp only
        rw [Tally.add_mk, List.length_cons, List.length_cons, Nat.add_comm 1, Nat.add_comm 1,
          Nat.add_comm 1, Nat.sub_add_comm this]
      · have hknown : ∀ r' : Record,
            (x.records ++ [r]).any r'.sameFact = (r :: x.records).any r'.sameFact := by
          intro r'
          rw [List.any_append, List.any_cons, List.any_cons, List.any_nil, Bool.or_false,
            Bool.or_comm]
        rw [Record.firstStatements_congr hknown]
        dsimp only
        rw [Tally.add_mk, List.append_assoc, List.singleton_append, List.length_cons,
          List.length_cons, List.length_cons, Nat.add_comm 1, Nat.add_comm 1, Nat.zero_add,
          Nat.add_sub_add_right]

/-- Reading line by line gives the records of a release and its tally. -/
theorem read_eq (body release : String) :
    read body release = ⟨Changelog.records body release, Changelog.tally body release⟩ := by
  rw [read, foldl_line]
  simp only [List.nil_append, Tally.zero_add]
  rfl

end Reader
end Changelog

/-! ## Record by record -/

namespace IngestReport

/-- How many records a report accounts for by what became of them. -/
def accounted (r : IngestReport) : ℕ :=
  r.inserted + r.replaced + r.unchanged + r.unsynthesized.length + r.refused.length

lemma accounted_append (a b : IngestReport) : (a ++ b).accounted = a.accounted + b.accounted := by
  simp only [append_eq, append, accounted, List.length_append]
  omega

end IngestReport

namespace Ingest

variable {z : Synthesizer} {s t u : Store}

/-- Going through some records made one store of another: each of them is accounted for, and as
many rules have come as were inserted. -/
structure Accounts (n : ℕ) (s : Store) (report : IngestReport) (t : Store) : Prop where
  records : report.records = n
  accounted : report.accounted = n
  size : t.mined.size = s.mined.size + report.inserted

lemma Accounts.refl (s : Store) : Accounts 0 s .empty s := ⟨rfl, rfl, rfl⟩

lemma Accounts.append {n m : ℕ} {a b : IngestReport} (ha : Accounts n s a t)
    (hb : Accounts m t b u) : Accounts (n + m) s (a ++ b) u where
  records := by
    show a.records + b.records = n + m
    rw [ha.records, hb.records]
  accounted := by rw [IngestReport.accounted_append, ha.accounted, hb.accounted]
  size := by rw [hb.size, ha.size, IngestReport.inserted_append, Nat.add_assoc]

/-- A submission comes out in one way, and brings a rule when it is inserted. -/
lemma accounts_submit (s : Store) (r : MinedRule) :
    Accounts 1 s (submit s r).1.ofRecord (submit s r).2 := by
  rw [submit]
  cases h : s.submit r with
  | error e => exact ⟨rfl, rfl, rfl⟩
  | ok p =>
    obtain ⟨o, t⟩ := p
    obtain ⟨x, -, hout, ht⟩ := Store.submit_eq_ok_iff.mp h
    cases o with
    | unchanged => exact ⟨rfl, rfl, congrArg (·.mined.size) ht⟩
    | inserted =>
      refine ⟨rfl, rfl, ?_⟩
      have hnew : s.mined.has r.id = false := by
        rcases Store.submissionOf_cases (s.mined.find? r.id) r with
          ⟨hnone, -⟩ | ⟨old, -, ⟨-, h⟩ | ⟨-, -, h⟩ | ⟨-, -, h⟩⟩
        · exact Keyed.has_eq_false_iff.mpr hnone
        all_goals
          rw [h] at hout
          cases hout
      show t.mined.size = s.mined.size + 1
      rw [ht]
      show (s.mined.insert r.id r).size = _
      rw [Keyed.size_insert, hnew]
      rfl
    | replaced =>
      refine ⟨rfl, rfl, ?_⟩
      have hheld : s.mined.has r.id = true := by
        rcases Store.submissionOf_cases (s.mined.find? r.id) r with
          ⟨-, h⟩ | ⟨old, hold, -⟩
        · rw [h] at hout
          cases hout
        · exact Keyed.has_iff.mpr ⟨old, hold⟩
      show t.mined.size = s.mined.size
      rw [ht]
      show (s.mined.insert r.id r).size = _
      rw [Keyed.size_insert, hheld]
      rfl

lemma accounts_record (z : Synthesizer) (st : State) (r : Record) :
    Accounts 1 st.store (record z st r).1 (record z st r).2.store := by
  cases h : z.synthesize st.registry st.clock.now r with
  | error e =>
    rw [record_of_error st h]
    exact ⟨rfl, rfl, rfl⟩
  | ok p =>
    rw [record_of_ok st h]
    dsimp only
    exact accounts_submit st.store p.1

theorem accounts_steps_record (z : Synthesizer) (st : State) (records : List Record) :
    Accounts records.length st.store (steps (record z) st records).1
      (steps (record z) st records).2.store := by
  induction records generalizing st with
  | nil => exact Accounts.refl st.store
  | cons r records ih =>
    rw [steps, List.length_cons, Nat.add_comm]
    dsimp only
    exact (accounts_record z st r).append (ih _)

/-- What is reported of a release before its records are looked at accounts for none. -/
lemma accounts_heading (s : Store) (r : Release) : Accounts 0 s r.heading s := ⟨rfl, rfl, rfl⟩

lemma accounts_release (z : Synthesizer) (st : State) (r : Release) :
    Accounts r.records.length st.store (release z st r).1 (release z st r).2.store := by
  have h := (accounts_heading st.store r).append (accounts_steps_record z st r.records)
  rw [Nat.zero_add] at h
  exact h

/-! ## Release by release -/

lemma onRecords_submit (s : Store) (r : MinedRule) : (submit s r).1.onRecords = (submit s r).1 := by
  rw [submit]
  split <;> rfl

/-- Nothing is said of whole releases where records are looked at. -/
lemma onRecords_record (z : Synthesizer) (st : State) (r : Record) :
    (record z st r).1.onRecords = (record z st r).1 := by
  cases h : z.synthesize st.registry st.clock.now r with
  | error e =>
    rw [record_of_error st h]
    rfl
  | ok p =>
    rw [record_of_ok st h]
    exact congrArg IngestReport.ofRecord (onRecords_submit st.store p.1)

lemma onRecords_steps_record (z : Synthesizer) (st : State) (records : List Record) :
    (steps (record z) st records).1.onRecords = (steps (record z) st records).1 := by
  induction records generalizing st with
  | nil => rfl
  | cons r records ih =>
    rw [steps, IngestReport.onRecords_append, onRecords_record, ih]

/-- What is reported of a release as a whole is its heading. -/
lemma releases_release (z : Synthesizer) (st : State) (r : Release) :
    (release z st r).1.releases = r.heading.releases := by
  have hnone : (steps (record z) st r.records).1.releases = [] := by
    rw [← onRecords_steps_record]
    rfl
  show r.heading.releases ++ (steps (record z) st r.records).1.releases = _
  rw [hnone, List.append_nil]

/-- The release that a reader has read under a version label. -/
def Release.ofReader (x : String × Changelog.Reader) : Release :=
  ⟨x.1, x.2.records, x.2.tally⟩

/-- A cycle over what was read under some version labels has made one store of another, and its
numbers agree. -/
structure Balances (s : Store) (read : List (String × Changelog.Reader)) (report : IngestReport)
    (t : Store) : Prop where
  tally : report.tally = .sum (read.map fun x => x.2.tally)
  matched_le : report.tally.matched ≤ report.tally.scanned
  repeated_le : report.tally.repeated ≤ report.tally.matched
  records : report.records = report.tally.matched - report.tally.repeated
  outcomes : report.records = report.inserted + report.replaced + report.unchanged
    + report.unsynthesized.length + report.refused.length
  size : t.mined.size = s.mined.size + report.inserted
  releases : report.releases = (read.filter fun x => x.2.records ≠ []).map (·.1)

lemma balances_nil (s : Store) : Balances s [] .empty s :=
  ⟨rfl, le_rfl, le_rfl, rfl, rfl, rfl, rfl⟩

/-- One more release in front. -/
lemma Balances.cons {x : String × Changelog.Reader} (hx : x.2.Balanced) {st : State}
    {read : List (String × Changelog.Reader)} {report : IngestReport}
    (h : Balances (release z st (.ofReader x)).2.store read report t) :
    Balances st.store (x :: read) ((release z st (.ofReader x)).1 ++ report) t := by
  have haccounts := accounts_release z st (.ofReader x)
  have htally : ((release z st (.ofReader x)).1 ++ report).tally = x.2.tally + report.tally := by
    rw [IngestReport.tally_append, tally_release]
    rfl
  have hrecords : ((release z st (.ofReader x)).1 ++ report).records
      = x.2.records.length + report.records := by
    show (release z st (.ofReader x)).1.records + report.records = _
    rw [haccounts.records]
    rfl
  obtain ⟨hmatched, hbalance⟩ := hx
  obtain ⟨hsum, hle, hrepeated, hreport, houtcomes, hsize, hreleases⟩ := h
  constructor
  · rw [htally, hsum, List.map_cons, Changelog.Tally.sum_cons]
  · rw [htally, Changelog.Tally.matched_add, Changelog.Tally.scanned_add]
    omega
  · rw [htally, Changelog.Tally.matched_add, Changelog.Tally.repeated_add]
    omega
  · rw [htally, hrecords, Changelog.Tally.matched_add, Changelog.Tally.repeated_add]
    omega
  · show _ = IngestReport.accounted _
    rw [hrecords, IngestReport.accounted_append, haccounts.accounted, houtcomes]
    rfl
  · rw [hsize, haccounts.size, IngestReport.inserted_append, Nat.add_assoc]
  · show (release z st (.ofReader x)).1.releases ++ report.releases = _
    rw [releases_release, hreleases, List.filter_cons]
    show (if x.2.records.isEmpty then [] else [x.1]) ++ _ = _
    cases x.2.records <;> simp

theorem balances_steps (z : Synthesizer) {read : List (String × Changelog.Reader)}
    (hread : ∀ x ∈ read, x.2.Balanced) (st : State) :
    Balances st.store read (steps (release z) st (read.map .ofReader)).1
      (steps (release z) st (read.map .ofReader)).2.store := by
  induction read generalizing st with
  | nil => exact balances_nil st.store
  | cons x read ih =>
    rw [List.map_cons, steps]
    exact Balances.cons (hread x List.mem_cons_self)
      (ih (fun y hy => hread y (List.mem_cons_of_mem x hy)) _)

lemma balances_cycle (z : Synthesizer) {read : List (String × Changelog.Reader)}
    (hread : ∀ x ∈ read, x.2.Balanced) (s : Store) (clock : Clock) :
    Balances s read (cycle z (read.map .ofReader) s clock).1
      (cycle z (read.map .ofReader) s clock).2.1 :=
  balances_steps z hread (start z s clock)

lemma ofNotes_eq (text version : String) :
    Release.ofNotes text version = .ofReader (trimmed version, .read text version) := by
  rw [Changelog.Reader.read_eq]
  rfl

lemma ofSection_eq (x : Changelog.Section) :
    Release.ofSection x = .ofReader (x.version, .read x.body x.version) := by
  rw [Changelog.Reader.read_eq]
  rfl

end Ingest

namespace Store

open Changelog (Reader sections)

lemma balances_ingest (z : Synthesizer) (s : Store) (text version : String) (clock : Clock) :
    Ingest.Balances s [(trimmed version, .read text version)] (s.ingest z text version clock).1
      (s.ingest z text version clock).2.1 := by
  have hread : ∀ x ∈ [(trimmed version, Reader.read text version)], x.2.Balanced := by
    intro x hx
    rw [List.mem_singleton.mp hx]
    exact Reader.balanced_read text version
  rw [ingest, Ingest.ofNotes_eq]
  exact Ingest.balances_cycle z hread s clock

lemma balances_ingestDocument (z : Synthesizer) (s : Store) (text : String) (clock : Clock) :
    Ingest.Balances s ((sections text).map fun x => (x.version, .read x.body x.version))
      (s.ingestDocument z text clock).1 (s.ingestDocument z text clock).2.1 := by
  have hreleases : Ingest.Release.ofDocument text
      = ((sections text).map fun x => (x.version, Reader.read x.body x.version)).map .ofReader := by
    rw [Ingest.ofDocument_eq, List.map_map]
    exact List.map_congr_left fun x _ => Ingest.ofSection_eq x
  rw [ingestDocument, hreleases]
  refine Ingest.balances_cycle z ?_ s clock
  intro x hx
  obtain ⟨y, -, rfl⟩ := List.mem_map.mp hx
  exact Reader.balanced_read y.body y.version

/-- **Nothing is lost and nothing is counted twice.**  Whatever a store holds, and whatever notes
of a release or changelog it ingests: the counts of the report are those of reading line by line,
no more lines match than are read, a record is given for each match that is no repetition, each
record has come out in one of five ways, and the store has as many more mined rules as were
inserted, while its static rules and entries are untouched.  The releases that are reported are
the versions of the sections that gave a record, in order. -/
theorem ingestion_balances (z : Synthesizer) (s : Store) (clock : Clock) :
    (∀ text version,
      let (report, t, _) := s.ingest z text version clock
      Ingest.Balances s [(trimmed version, .read text version)] report t ∧
        t.statics = s.statics ∧ t.entries = s.entries) ∧
    ∀ text,
      let (report, t, _) := s.ingestDocument z text clock
      Ingest.Balances s ((sections text).map fun x => (x.version, .read x.body x.version)) report t ∧
        t.statics = s.statics ∧ t.entries = s.entries := by
  constructor
  · intro text version
    have hbalances := s.balances_ingest z text version clock
    have huntouched := @statics_entries_after s (.ingest z text version clock) rfl
    rw [after_ingest] at huntouched
    generalize s.ingest z text version clock = run at hbalances huntouched
    exact ⟨hbalances, huntouched⟩
  · intro text
    have hbalances := s.balances_ingestDocument z text clock
    have huntouched := @statics_entries_after s (.ingestDocument z text clock) rfl
    rw [after_ingestDocument] at huntouched
    generalize s.ingestDocument z text clock = run at hbalances huntouched
    exact ⟨hbalances, huntouched⟩

end Store
end Deprecation
