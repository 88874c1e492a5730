/-
# Ingesting a release again

A cycle settles each record of a release: the record becomes no rule, or the store holds a rule
of its content, or a reviewed rule stands against it.  A record that is settled is answered
without a change, and the answer is the one it got before, but for a rule that was new or
changed then and is unchanged now.  What settles a record concerns the ids that its fact may
have and the rule it holds.  Neither is touched by the other records of the release, which
state other facts, nor by reviews and added entries.  So a second cycle over the same text
finds every record settled.
-/
import Mathlib
import Deprecation.Proofs.Changelog.Facts
import Deprecation.Proofs.Ingest.Registry

namespace Deprecation

/-! ## The report of a second cycle -/

namespace IngestReport

/-- What is reported when nothing is new any more. -/
def again (report : IngestReport) : IngestReport :=
  { report with
    inserted := 0
    replaced := 0
    unchanged := report.inserted + report.replaced + report.unchanged }

lemma again_append (a b : IngestReport) : (a ++ b).again = a.again ++ b.again := by
  simp only [append_eq, append, again, Nat.add_zero, mk.injEq, true_and, and_true]
  omega

end IngestReport

namespace Ingest

open Store

variable {z : Synthesizer} {s t u : Store} {r : Record} {id : String} {fact : Holder}
  {report : IngestReport}

lemma again_heading (release : Release) : release.heading.again = release.heading := rfl

/-! ## What a store keeps for a fact -/

/-- A later store still knows what an earlier one knew of a fact: the holders of all ids, and
the rules about the fact, which have at most been reviewed. -/
structure Carries (fact : Holder) (s t : Store) : Prop where
  holders : s.KeepsHolders t
  rules : ∀ id old, s.mined.find? id = some old → old.fact = fact →
    ∃ status, t.mined.find? id = some { old with status } ∧
      (old.status ≠ .draft → status = old.status)

lemma Carries.of_mined_eq (hstatics : t.statics = s.statics) (hmined : t.mined = s.mined) :
    Carries fact s t where
  holders := by
    intro id h hid
    rw [holder_congr hstatics hmined, hid]
  rules := by
    intro id old hold _
    exact ⟨old.status, by rw [hmined, hold], fun _ => rfl⟩

lemma Carries.refl (fact : Holder) (s : Store) : Carries fact s s :=
  .of_mined_eq rfl rfl

lemma Carries.trans (hst : Carries fact s t) (htu : Carries fact t u) : Carries fact s u where
  holders := hst.holders.trans htu.holders
  rules := by
    intro id old hold hfact
    obtain ⟨status, hold', hstatus⟩ := hst.rules id old hold hfact
    obtain ⟨status', hold'', hstatus'⟩ := htu.rules id _ hold' hfact
    refine ⟨status', hold'', fun hfinal => ?_⟩
    have heq := hstatus hfinal
    rw [← heq]
    exact hstatus' (heq ▸ hfinal)

/-- Reviews and added entries leave every fact what it has. -/
lemma carries_upkeep (h : s.Consistent) (op : Op) (hop : op.isUpkeep = true) (fact : Holder) :
    Carries fact s (s.after op) := by
  cases op with
  | addEntries entries =>
    exact .of_mined_eq (statics_addEntries s entries) (mined_addEntries s entries)
  | setStatus id status =>
    rcases s.after_setStatus_cases id status with heq | ⟨r, hr, hdraft, hstatics, hmined⟩
    · rw [heq]
      exact .refl fact s
    · constructor
      · intro id' h' hid'
        rw [holder_of_insert (h.not_static hr) hstatics hmined]
        split
        · next heq =>
          rw [heq, h.holder_of_mined hr] at hid'
          exact hid'
        · exact hid'
      · intro id' old hold _
        rw [hmined, Keyed.find?_insert]
        split
        · next heq =>
          rw [heq, hr] at hold
          cases hold
          exact ⟨status, rfl, fun hfinal => absurd hdraft hfinal⟩
        · exact ⟨old.status, hold, fun _ => rfl⟩
  | load rules entries => cases hop
  | submit r => cases hop
  | ingest z text version clock => cases hop
  | ingestDocument z text clock => cases hop
  | restore held => cases hop

lemma carries_run (h : s.Coherent) {ops : List Op} (hops : ∀ op ∈ ops, op.isUpkeep = true)
    (fact : Holder) : Carries fact s (s.run ops) := by
  have hkeeps : (s.run ops).Coherent ∧ Carries fact s (s.run ops) := by
    refine run_keeps (P := fun t => t.Coherent ∧ Carries fact s t) ?_ ⟨h, .refl fact s⟩
    rintro t op hop ⟨ht, hst⟩
    exact ⟨ht.after op, hst.trans (carries_upkeep ht.consistent op (hops op hop) fact)⟩
  exact hkeeps.2

/-- A record leaves the store as it is, but for the rule at the id that the record is offered. -/
structure Spares (z : Synthesizer) (r : Record) (s t : Store) : Prop where
  holders : s.KeepsHolders t
  rules : ∀ id, z.offer (registryOf z s) r ≠ .ok id → t.mined.find? id = s.mined.find? id

lemma Spares.refl (z : Synthesizer) (r : Record) (s : Store) : Spares z r s s :=
  ⟨.refl s, fun _ _ => rfl⟩

lemma spares_after_draft (h : s.Consistent) (hoffer : z.offer (registryOf z s) r = .ok id)
    (now : Instant) : Spares z r s (s.after (.submit (z.draft id now r))) where
  holders := keepsHolders_after_draft h hoffer now
  rules := by
    intro id' hid'
    have hne : id' ≠ id := by
      rintro rfl
      exact hid' hoffer
    obtain ⟨-, hput | ⟨hmined, -⟩⟩ := mined_after_draft h hoffer now
    · rw [hput, Keyed.find?_insert_of_ne _ _ hne]
    · rw [hmined]

/-- The record of one fact leaves every other fact what it has. -/
lemma Spares.carries (h : s.Consistent) (hst : Spares z r s t) (hne : r.fact ≠ fact) :
    Carries fact s t := by
  refine ⟨hst.holders, ?_⟩
  intro id old hold hfact
  have hoffer : z.offer (registryOf z s) r ≠ .ok id := by
    intro hoffer
    exact hne ((fact_of_offer h hoffer hold).symm.trans hfact)
  exact ⟨old.status, by rw [hst.rules id hoffer, hold], fun _ => rfl⟩

/-! ## Settled records -/

/-- A record is settled: whatever the time, a cycle that meets it changes nothing, and reports
what is given here. -/
inductive Settled (z : Synthesizer) (s : Store) (r : Record) : IngestReport → Prop
  | unsynthesized (e : SynthesisError) (he : z.offer (registryOf z s) r = .error e) :
      Settled z s r { IngestReport.empty with records := 1, unsynthesized := [e] }
  | unchanged (id : String) (old : MinedRule) (hoffer : z.offer (registryOf z s) r = .ok id)
      (hold : s.mined.find? id = some old)
      (hsame : ∀ now, old.sameContent (z.draft id now r) = true) :
      Settled z s r { IngestReport.empty with records := 1, unchanged := 1 }
  | refused (id : String) (old : MinedRule) (hoffer : z.offer (registryOf z s) r = .ok id)
      (hold : s.mined.find? id = some old)
      (hsame : ∀ now, old.sameContent (z.draft id now r) = false) (hfinal : old.status ≠ .draft) :
      Settled z s r
        { IngestReport.empty with
          records := 1
          refused := [⟨id, (StoreError.alreadyReviewed id old.status).message⟩] }

/-- A settled record is answered without a change. -/
lemma record_of_settled (h : s.Coherent) (hr : Settled z s r report) (clock : Clock) :
    record z (start z s clock) r = (report, start z s (clock.after 1)) := by
  cases hr with
  | unsynthesized e he => exact record_of_offer_error he clock
  | unchanged id old hoffer hold hsame =>
    -- the status of the rule that is held does not matter: its content is the draft's
    have hs : s.submit (z.draft id clock.now r) = .ok (.unchanged, s) := by
      obtain ⟨x, hx⟩ := admissible_of_offer h.consistent hoffer clock.now
      refine submit_eq_ok_iff.mpr ⟨x, hx, ?_, rfl⟩
      rw [Synthesizer.id_draft, hold, submissionOf, if_pos (hsame clock.now)]
    rw [record_of_offer_ok h hoffer, after_submit_of_ok hs, submit, hs]
    rfl
  | refused id old hoffer hold hsame hfinal =>
    have hs : s.submit (z.draft id clock.now r) = .error (.alreadyReviewed id old.status) := by
      obtain ⟨x, hx⟩ := admissible_of_offer h.consistent hoffer clock.now
      refine submit_of_admissible hx ?_
      have hstatus : old.status.isFinal = true := by
        cases hstatus : old.status with
        | draft => exact absurd hstatus hfinal
        | approved => rfl
        | rejected => rfl
      rw [Synthesizer.id_draft, hold, submissionOf, if_neg (by simp [hsame]), if_pos hstatus]
      rfl
    rw [record_of_offer_ok h hoffer, after_submit_of_error hs, submit, hs]
    rfl

/-- A record stays settled for as long as no id changes hands and the rule at its own id is at
most reviewed. -/
lemma Settled.keep (hs : s.Consistent) (ht : t.Consistent) (hst : s.KeepsHolders t)
    (hrule : ∀ id old, z.offer (registryOf z s) r = .ok id → s.mined.find? id = some old →
      ∃ status, t.mined.find? id = some { old with status } ∧
        (old.status ≠ .draft → status = old.status))
    (hr : Settled z s r report) : Settled z t r report := by
  have hextends := extends_registryOf (z := z) hs ht hst
  have hmax : (registryOf z t).maxSuffix = (registryOf z s).maxSuffix := by simp
  -- the id that was offered is held by the fact, so it is offered again
  have hoffered : ∀ id old, z.offer (registryOf z s) r = .ok id → s.mined.find? id = some old →
      z.offer (registryOf z t) r = .ok id := by
    intro id old hoffer hold
    refine Synthesizer.offer_ok_of_extends hextends hmax ?_ hoffer
    rw [holder_registryOf z ht]
    refine hst id _ ?_
    rw [hs.holder_of_mined hold, fact_of_offer hs hoffer hold]
  cases hr with
  | unsynthesized e he =>
    exact .unsynthesized e (Synthesizer.offer_error_of_extends hextends hmax he)
  | unchanged id old hoffer hold hsame =>
    obtain ⟨status, hold', -⟩ := hrule id old hoffer hold
    exact .unchanged id { old with status } (hoffered id old hoffer hold) hold' hsame
  | refused id old hoffer hold hsame hfinal =>
    obtain ⟨status, hold', hstatus⟩ := hrule id old hoffer hold
    have heq : status = old.status := hstatus hfinal
    subst heq
    exact .refused id old (hoffered id old hoffer hold) hold' hsame hfinal

/-- A record stays settled for as long as the store keeps what it knows of its fact. -/
lemma Settled.carry (hs : s.Consistent) (ht : t.Consistent) (hst : Carries r.fact s t)
    (hr : Settled z s r report) : Settled z t r report :=
  hr.keep hs ht hst.holders fun id old hoffer hold =>
    hst.rules id old hold (fact_of_offer hs hoffer hold)

/-- A record is offered its id again when the rule that it becomes has been submitted. -/
lemma offer_after_draft (h : s.Coherent) (hoffer : z.offer (registryOf z s) r = .ok id)
    (now : Instant) :
    z.offer (registryOf z (s.after (.submit (z.draft id now r)))) r = .ok id := by
  have ht := (h.after (.submit (z.draft id now r))).consistent
  refine Synthesizer.offer_ok_of_extends (extends_registryOf h.consistent ht
    (keepsHolders_after_draft h.consistent hoffer now)) (by simp) ?_ hoffer
  rw [holder_registryOf z ht, holder_after_draft h.consistent hoffer, if_pos rfl]

/-- A record has been settled as soon as a cycle has met it. -/
theorem record_settles (h : s.Coherent) (z : Synthesizer) (clock : Clock) (r : Record) :
    ∃ report t, record z (start z s clock) r = (report, start z t (clock.after 1)) ∧
      t.Coherent ∧ Settled z t r report.again ∧ Spares z r s t := by
  cases hoffer : z.offer (registryOf z s) r with
  | error e =>
    exact ⟨_, s, record_of_offer_error hoffer clock, h, .unsynthesized e hoffer, .refl z r s⟩
  | ok id =>
    have ht := h.after (.submit (z.draft id clock.now r))
    refine ⟨_, _, record_of_offer_ok h hoffer clock, ht, ?_,
      spares_after_draft h.consistent hoffer clock.now⟩
    have hoffer' := offer_after_draft h hoffer clock.now
    -- in all four outcomes the rule at the id is the draft, or the one that answered it
    have hput : ∀ x, ((s.putMined (z.draft id clock.now r) x).refresh).mined.find? id
        = some (z.draft id clock.now r) := fun x => Keyed.find?_insert_self _ _ _
    have hself : ∀ now, (z.draft id clock.now r).sameContent (z.draft id now r) = true := by
      intro now
      rw [Synthesizer.sameContent_draft _ now clock.now, MinedRule.sameContent_self]
    rw [submit]
    cases outcome_of_offer h.consistent hoffer clock.now with
    | inserted x _ hs =>
      rw [after_submit_of_ok hs] at hoffer' ⊢
      rw [hs]
      exact .unchanged id _ hoffer' (hput x) hself
    | unchanged old hold _ hsame hs =>
      rw [after_submit_of_ok hs] at hoffer' ⊢
      rw [hs]
      refine .unchanged id old hoffer' hold fun now => ?_
      rw [Synthesizer.sameContent_draft old now clock.now, hsame]
    | refused old hold _ hsame hfinal hs =>
      rw [after_submit_of_error hs] at hoffer' ⊢
      rw [hs]
      refine .refused id old hoffer' hold (fun now => ?_) hfinal
      rw [Synthesizer.sameContent_draft old now clock.now, hsame]
    | replaced x _ _ _ _ _ hs =>
      rw [after_submit_of_ok hs] at hoffer' ⊢
      rw [hs]
      exact .unchanged id _ hoffer' (hput x) hself

/-! ## A second cycle -/

/-- A pass over records that state different facts settles all of them, and no other fact is
touched.  So a pass over the same records later, when the store still has what it knew of
these facts, changes nothing. -/
theorem steps_settle (h : s.Coherent) {records : List Record}
    (hrecords : records.Pairwise fun r r' => r'.fact ≠ r.fact) (z : Synthesizer)
    (clock : Clock) :
    ∃ report t, steps (record z) (start z s clock) records
        = (report, start z t (clock.after records.length)) ∧
      t.Coherent ∧ (∀ fact, (∀ r ∈ records, r.fact ≠ fact) → Carries fact s t) ∧
      ∀ u : Store, u.Coherent → (∀ r ∈ records, Carries r.fact t u) → ∀ clock',
        steps (record z) (start z u clock') records
          = (report.again, start z u (clock'.after records.length)) := by
  induction records generalizing s clock with
  | nil =>
    exact ⟨.empty, s, rfl, h, fun fact _ => .refl fact s, fun u _ _ clock' => rfl⟩
  | cons r records ih =>
    obtain ⟨hr, hrest⟩ := List.pairwise_cons.mp hrecords
    obtain ⟨first, t, hrecord, ht, hsettled, hst⟩ := record_settles h z clock r
    obtain ⟨others, u, hsteps, hu, htu, hagain⟩ := ih ht hrest (clock.after 1)
    have hlength : ∀ c : Clock,
        (c.after 1).after records.length = c.after (r :: records).length := by
      intro c
      rw [Clock.after_after, List.length_cons, Nat.add_comm]
    refine ⟨first ++ others, u, ?_, hu, ?_, ?_⟩
    · rw [steps, hrecord]
      dsimp only
      rw [hsteps, hlength]
    · intro fact hfact
      exact (hst.carries h.consistent (hfact r List.mem_cons_self)).trans
        (htu fact fun r' hr' => hfact r' (List.mem_cons_of_mem r hr'))
    · intro v hv huv clock'
      -- the first record was settled in `t`; the others and what came later kept it so
      have htv : Carries r.fact t v := (htu r.fact hr).trans (huv r List.mem_cons_self)
      have hsettled' := hsettled.carry ht.consistent hv.consistent htv
      have hrest' := hagain v hv (fun r' hr' => huv r' (List.mem_cons_of_mem r hr'))
        (clock'.after 1)
      rw [steps, record_of_settled hv hsettled']
      dsimp only
      rw [hrest', hlength, IngestReport.again_append]

end Ingest

namespace Store

/-- **A second ingestion changes nothing.**  After any run the notes of a release are ingested;
then entries are added and rules are reviewed; then the same notes are ingested again.  The
second cycle leaves the store as it finds it.  It reports what the first one did, but that
nothing was inserted or replaced and all of that is unchanged now. -/
theorem second_ingest_changes_nothing (ops : List Op) (z : Synthesizer) (text version : String)
    (first second : Clock) (upkeep : List Op) (hupkeep : ∀ op ∈ upkeep, op.isUpkeep = true) :
    let once := (empty.run ops).ingest z text version first
    let kept := once.2.1.run upkeep
    let twice := kept.ingest z text version second
    twice.1 =
      { once.1 with
        inserted := 0
        replaced := 0
        unchanged := once.1.inserted + once.1.replaced + once.1.unchanged } ∧
    twice.2.1 = kept := by
  intro once kept twice
  obtain ⟨report, t, hsteps, ht, -, hagain⟩ := Ingest.steps_settle (coherent_run ops)
    (Changelog.pairwise_records text version) z first
  have honce : once = _ := Ingest.ingest_of_steps hsteps
  have hkept : kept = t.run upkeep := congrArg (fun p => Store.run p.2.1 upkeep) honce
  have hcoherent : kept.Coherent := hkept ▸ run_keeps (fun _ op _ h => h.after op) ht
  have hcarries : ∀ r ∈ Changelog.records text version, Ingest.Carries r.fact t kept :=
    fun r _ => hkept ▸ Ingest.carries_run ht hupkeep r.fact
  have htwice : twice = _ := Ingest.ingest_of_steps (hagain kept hcoherent hcarries second)
  rw [htwice, honce]
  refine ⟨?_, rfl⟩
  rw [← Ingest.again_heading, ← IngestReport.again_append]
  rfl

/-- A synthesizer without legacy prefixes. -/
def plain : Synthesizer where
  legacyPrefixes := []
  maxSuffix := 9

/-- Release notes that announce one removal. -/
def sampleNotes : String := "Removed `<a>`"

/-- The record of the removal, for the release `1.0`. -/
def sampleRecord : Record where
  token := "<a>"
  replacement := none
  category := .removed
  release := "1.0"

lemma records_sampleNotes : Changelog.records sampleNotes "1.0" = [sampleRecord] := by
  decide

lemma fault_sampleRecord : plain.fault sampleRecord = none := by
  have hpattern : plain.patternOf sampleRecord = "<a>" := by decide
  rw [Synthesizer.fault_eq_none_iff, hpattern]
  refine ⟨by decide, by decide +kernel, ?_, by decide +kernel⟩
  cbv

/-- The notes insert the rule of the removal into a store that has a free id for it. -/
lemma ingest_sampleNotes {s : Store} (h : s.Coherent) {id : String}
    (hoffer : plain.offer (Ingest.registryOf plain s) sampleRecord = .ok id)
    (hfree : s.mined.find? id = none) (clock : Clock) :
    ∃ x, s.ingest plain sampleNotes "1.0" clock
      = (⟨["1.0"], ⟨1, 1, 0⟩, 1, 1, 0, 0, [], []⟩,
        (s.putMined (plain.draft id clock.now sampleRecord) x).refresh, clock.after 1) := by
  obtain ⟨x, hx⟩ := Ingest.admissible_of_offer h.consistent hoffer clock.now
  have hs : s.submit (plain.draft id clock.now sampleRecord)
      = .ok (.inserted, (s.putMined (plain.draft id clock.now sampleRecord) x).refresh) := by
    refine submit_eq_ok_iff.mpr ⟨x, hx, ?_, rfl⟩
    rw [Synthesizer.id_draft, hfree]
    rfl
  have hrecord := Ingest.record_of_offer_ok h hoffer clock
  rw [Ingest.submit, hs, after_submit_of_ok hs] at hrecord
  have hsteps : Ingest.steps (Ingest.record plain) (Ingest.start plain s clock)
      (Changelog.records sampleNotes "1.0")
        = (({ IngestReport.empty with inserted := 1 } : IngestReport).ofRecord,
          Ingest.start plain (s.putMined (plain.draft id clock.now sampleRecord) x).refresh
            (clock.after 1)) := by
    rw [records_sampleNotes, Ingest.steps, hrecord]
    rfl
  have hheading : (Ingest.Release.ofNotes sampleNotes "1.0").heading
      = ⟨["1.0"], ⟨1, 1, 0⟩, 0, 0, 0, 0, [], []⟩ := by
    decide
  refine ⟨x, ?_⟩
  rw [Ingest.ingest_of_steps hsteps, hheading]
  rfl

/-- The sample notes are ingested, their rule is approved, and they are ingested again. -/
theorem sampleNotes_change_nothing_again :
    (∀ op ∈ [Op.setStatus "auto-a-1.0" .approved], op.isUpkeep = true) ∧
    ∃ s clock, empty.ingest plain sampleNotes "1.0" (.ofEpoch 0)
        = (⟨["1.0"], ⟨1, 1, 0⟩, 1, 1, 0, 0, [], []⟩, s, clock) ∧
      ((s.after (.setStatus "auto-a-1.0" .approved)).ingest plain sampleNotes "1.0"
        (.ofEpoch 1)).1 = ⟨["1.0"], ⟨1, 1, 0⟩, 1, 0, 0, 1, [], []⟩ ∧
      ((s.after (.setStatus "auto-a-1.0" .approved)).ingest plain sampleNotes "1.0"
        (.ofEpoch 1)).2.1 = s.after (.setStatus "auto-a-1.0" .approved) := by
  have hupkeep : ∀ op ∈ [Op.setStatus "auto-a-1.0" .approved], op.isUpkeep = true := by
    simp [Op.isUpkeep]
  have hoffer : plain.offer (Ingest.registryOf plain empty) sampleRecord = .ok "auto-a-1.0" :=
    Synthesizer.offer_eq_ok_iff.mpr ⟨fault_sampleRecord, by decide⟩
  obtain ⟨x, honce⟩ := ingest_sampleNotes coherent_empty hoffer rfl (.ofEpoch 0)
  have hagain := second_ingest_changes_nothing [] plain sampleNotes "1.0" (.ofEpoch 0)
    (.ofEpoch 1) _ hupkeep
  refine ⟨hupkeep, _, _, honce, ?_⟩
  simp only [run_cons, run_nil, honce] at hagain
  exact hagain

end Store
end Deprecation
