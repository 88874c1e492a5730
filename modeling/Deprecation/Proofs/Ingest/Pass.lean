/-
# A pass over records

A cycle of ingestion goes over the records of its releases one by one.  What it makes of the
store depends on the records alone and not on how they are divided into releases, and it does
nothing to the store but submit rules to it.  So a law that every submission keeps holds
across an ingestion too, and it holds no matter what else happens between two records.  The
rules that are submitted in this way were made at readings of the clock.
-/
import Mathlib
import Deprecation.Proofs.Instant.Shown
import Deprecation.Proofs.Store.Run
import Deprecation.Proofs.Synthesis

namespace Deprecation

namespace IngestReport

/-- What is reported of one record: what became of its rule, and that there was a record. -/
def ofRecord (report : IngestReport) : IngestReport :=
  { report with records := 1 }

lemma append_eq (a b : IngestReport) : a ++ b = a.append b := rfl

@[simp] lemma append_empty (a : IngestReport) : a ++ empty = a := by
  obtain ⟨releases, tally, _⟩ := a
  have htally : tally + ⟨0, 0, 0⟩ = tally := rfl
  simp [append_eq, append, empty, htally]

@[simp] lemma empty_append (a : IngestReport) : empty ++ a = a := by
  obtain ⟨releases, ⟨scanned, matched, repeated⟩, _⟩ := a
  have htally : (⟨0, 0, 0⟩ : Changelog.Tally) + ⟨scanned, matched, repeated⟩
      = ⟨scanned, matched, repeated⟩ := by
    show Changelog.Tally.mk (0 + scanned) (0 + matched) (0 + repeated) = _
    simp only [Nat.zero_add]
  simp [append_eq, append, empty, htally]

lemma append_assoc (a b c : IngestReport) : a ++ b ++ c = a ++ (b ++ c) := by
  have htally : a.tally + b.tally + c.tally = a.tally + (b.tally + c.tally) := by
    show Changelog.Tally.mk _ _ _ = Changelog.Tally.mk _ _ _
    simp only [Nat.add_assoc, Changelog.Tally.scanned_add, Changelog.Tally.matched_add,
      Changelog.Tally.repeated_add]
  simp only [append_eq, append, List.append_assoc, Nat.add_assoc, htally]

/-- A report without what it says of whole releases: their versions, and the lines read. -/
def onRecords (report : IngestReport) : IngestReport :=
  { report with
    releases := []
    tally := ⟨0, 0, 0⟩ }

lemma onRecords_append (a b : IngestReport) : (a ++ b).onRecords = a.onRecords ++ b.onRecords :=
  rfl

lemma inserted_append (a b : IngestReport) : (a ++ b).inserted = a.inserted + b.inserted := rfl

lemma replaced_append (a b : IngestReport) : (a ++ b).replaced = a.replaced + b.replaced := rfl

end IngestReport

namespace Ingest

/-- The state after a pass over records. -/
def pass (z : Synthesizer) (st : State) (records : List Record) : State :=
  records.foldl (fun st r => (record z st r).2) st

@[simp] lemma pass_nil (z : Synthesizer) (st : State) : pass z st [] = st := rfl

@[simp] lemma pass_cons (z : Synthesizer) (st : State) (r : Record) (records : List Record) :
    pass z st (r :: records) = pass z (record z st r).2 records := by
  rw [pass, List.foldl_cons, ← pass]

lemma pass_append (z : Synthesizer) (st : State) (records records' : List Record) :
    pass z st (records ++ records') = pass z (pass z st records) records' :=
  List.foldl_append

/-- The state in which a cycle starts. -/
def start (z : Synthesizer) (s : Store) (clock : Clock) : State :=
  ⟨s, registryOf z s, clock⟩

lemma steps_snd {α : Type} (step : State → α → IngestReport × State) (st : State) (l : List α) :
    (steps step st l).2 = l.foldl (fun st a => (step st a).2) st := by
  induction l generalizing st with
  | nil => rfl
  | cons a l ih => rw [steps, List.foldl_cons, ← ih]

lemma steps_append {α : Type} (step : State → α → IngestReport × State) (st : State)
    (l l' : List α) :
    steps step st (l ++ l') =
      ((steps step st l).1 ++ (steps step (steps step st l).2 l').1,
        (steps step (steps step st l).2 l').2) := by
  induction l generalizing st with
  | nil => simp [steps]
  | cons a l ih =>
    simp only [List.cons_append, steps, ih, IngestReport.append_assoc]

lemma release_snd (z : Synthesizer) (st : State) (r : Release) :
    (release z st r).2 = pass z st r.records :=
  steps_snd (record z) st r.records

/-- A cycle is one pass over the records of all its releases. -/
theorem steps_release_snd (z : Synthesizer) (st : State) (releases : List Release) :
    (steps (release z) st releases).2 = pass z st (releases.flatMap Release.records) := by
  induction releases generalizing st with
  | nil => rfl
  | cons r releases ih =>
    rw [List.flatMap_cons, pass_append, ← release_snd, ← ih, steps]

/-- What a cycle reports of the records is reported in its pass: a heading says nothing of
them. -/
lemma onRecords_steps_release (z : Synthesizer) (st : State) (releases : List Release) :
    (steps (release z) st releases).1.onRecords
      = (steps (record z) st (releases.flatMap Release.records)).1.onRecords := by
  induction releases generalizing st with
  | nil => rfl
  | cons r releases ih =>
    have hheading : r.heading.onRecords = .empty := rfl
    rw [List.flatMap_cons, steps_append, steps]
    dsimp only
    rw [IngestReport.onRecords_append, IngestReport.onRecords_append, ih]
    simp only [release, IngestReport.onRecords_append, hheading, IngestReport.empty_append]

lemma cycle_store (z : Synthesizer) (releases : List Release) (s : Store) (clock : Clock) :
    (cycle z releases s clock).2.1
      = (pass z (start z s clock) (releases.flatMap Release.records)).store := by
  rw [← steps_release_snd, start, cycle]

/-- A cycle reports of the records what its pass does, and leaves the store that its pass
leaves. -/
lemma cycle_eq_steps (z : Synthesizer) (releases : List Release) (s : Store) (clock : Clock) :
    (cycle z releases s clock).1.onRecords = (steps (record z) (start z s clock)
        (releases.flatMap Release.records)).1.onRecords ∧
      (cycle z releases s clock).2.1 = (steps (record z) (start z s clock)
        (releases.flatMap Release.records)).2.store := by
  refine ⟨onRecords_steps_release z (start z s clock) releases, ?_⟩
  rw [cycle_store, steps_snd]
  rfl

lemma release_of_steps {z : Synthesizer} {st st' : State} {r : Release} {report : IngestReport}
    (h : steps (record z) st r.records = (report, st')) :
    release z st r = (r.heading ++ report, st') := by
  rw [release, h]

/-- The cycle of one release is a pass over its records under a heading. -/
lemma ingest_of_steps {z : Synthesizer} {s : Store} {text version : String} {clock : Clock}
    {st : State} {report : IngestReport}
    (h : steps (record z) (start z s clock) (Changelog.records text version) = (report, st)) :
    s.ingest z text version clock
      = ((Release.ofNotes text version).heading ++ report, st.store, st.clock) := by
  rw [start] at h
  rw [Store.ingest, cycle, steps, release_of_steps (r := .ofNotes text version) h]
  simp [steps]

/-! ## Nothing but submissions -/

lemma submit_snd (s : Store) (r : MinedRule) : (submit s r).2 = s.after (.submit r) := by
  rw [submit]
  cases h : s.submit r with
  | error e => exact (Store.after_submit_of_error h).symm
  | ok p =>
    obtain ⟨o, t⟩ := p
    rw [Store.after_submit_of_ok h]
    cases o <;> rfl

section Record

variable {z : Synthesizer} {st : State} {r : Record}

lemma record_of_error (st : State) {e : SynthesisError}
    (h : z.synthesize st.registry st.clock.now r = .error e) :
    record z st r = ({ IngestReport.empty with records := 1, unsynthesized := [e] },
      { st with clock := st.clock.after 1 }) := by
  simp only [record, h]

lemma record_of_ok (st : State) {rule : MinedRule} {g : Registry}
    (h : z.synthesize st.registry st.clock.now r = .ok (rule, g)) :
    record z st r = ((submit st.store rule).1.ofRecord,
      ⟨(submit st.store rule).2, g, st.clock.after 1⟩) := by
  simp only [record, h]
  rfl

/-- A record leaves the store alone or submits one rule to it, which is made now. -/
lemma record_store (z : Synthesizer) (st : State) (r : Record) :
    (record z st r).2.store = st.store ∨
      ∃ rule, rule.madeAt = st.clock.now ∧
        (record z st r).2.store = st.store.after (.submit rule) := by
  cases h : z.synthesize st.registry st.clock.now r with
  | error e =>
    left
    rw [record_of_error st h]
  | ok p =>
    right
    obtain ⟨rule, g⟩ := p
    obtain ⟨id, -, hrule, -⟩ := Synthesizer.synthesize_eq_ok_iff.mp h
    refine ⟨rule, congrArg MinedRule.madeAt hrule, ?_⟩
    rw [record_of_ok st h, submit_snd]

end Record

section Keeps

variable {P : Store → Prop}

/-- What every submission of a rule with an instant on the clock keeps, a pass keeps. -/
lemma keeps_pass (hsubmit : ∀ s r, r.madeAt.OnClock → P s → P (s.after (.submit r)))
    {z : Synthesizer} {st : State} (h : P st.store) (records : List Record) :
    P (pass z st records).store := by
  induction records generalizing st with
  | nil => exact h
  | cons r records ih =>
    rw [pass_cons]
    apply ih
    rcases record_store z st r with heq | ⟨rule, hnow, heq⟩
    · rwa [heq]
    · rw [heq]
      exact hsubmit st.store rule (hnow ▸ st.clock.onClock_now) h

lemma keeps_ingest (hsubmit : ∀ s r, r.madeAt.OnClock → P s → P (s.after (.submit r))) {s : Store}
    (h : P s) (z : Synthesizer) (text version : String) (clock : Clock) :
    P (s.after (.ingest z text version clock)) := by
  rw [Store.after_ingest, Store.ingest, cycle_store]
  exact keeps_pass hsubmit h _

lemma keeps_ingestDocument (hsubmit : ∀ s r, r.madeAt.OnClock → P s → P (s.after (.submit r)))
    {s : Store} (h : P s) (z : Synthesizer) (text : String) (clock : Clock) :
    P (s.after (.ingestDocument z text clock)) := by
  rw [Store.after_ingestDocument, Store.ingestDocument, cycle_store]
  exact keeps_pass hsubmit h _

end Keeps

end Ingest
end Deprecation
