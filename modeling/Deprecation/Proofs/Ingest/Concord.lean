/-
# Ingesting a document again

The notes of one release state each fact once, so a second cycle over them changes nothing.  A
document may state a fact more than once, in several sections.  Where two of these records are
offered one id, a draft of the first gives way to the second, and in the next cycle the draft
of the second gives way to the first: the rule is made anew each time the document is read.

So a second cycle over a document changes nothing just when the records that share a draft
would make it the same.  It never inserts a rule, for the first cycle has found an id for each
record that can have one.
-/
import Mathlib
import Deprecation.Proofs.Ingest.Document
import Deprecation.Proofs.Ingest.Repeat
import Deprecation.Proofs.RuleId.Sharing

namespace Deprecation

namespace Ingest

open Store

variable {z : Synthesizer} {s t : Store} {r r' : Record} {id : String} {records : List Record}

/-! ## Records that have their id -/

/-- The id that a record is offered, if any, is held by its fact. -/
def Placed (z : Synthesizer) (s : Store) (r : Record) : Prop :=
  ∀ id, z.offer (registryOf z s) r = .ok id → s.holder id = some r.fact

/-- A record that has its id is offered the same again for as long as no id changes hands. -/
lemma Placed.offer_eq (hr : Placed z s r) (hs : s.Consistent) (ht : t.Consistent)
    (hst : s.KeepsHolders t) : z.offer (registryOf z t) r = z.offer (registryOf z s) r := by
  have hextends := extends_registryOf (z := z) hs ht hst
  have hmax : (registryOf z t).maxSuffix = (registryOf z s).maxSuffix := by simp
  cases hoffer : z.offer (registryOf z s) r with
  | error e => exact Synthesizer.offer_error_of_extends hextends hmax hoffer
  | ok id =>
    refine Synthesizer.offer_ok_of_extends hextends hmax ?_ hoffer
    rw [holder_registryOf z ht]
    exact hst id _ (hr id hoffer)

lemma Placed.keep (hr : Placed z s r) (hs : s.Consistent) (ht : t.Consistent)
    (hst : s.KeepsHolders t) : Placed z t r := by
  intro id hoffer
  rw [hr.offer_eq hs ht hst] at hoffer
  exact hst id _ (hr id hoffer)

/-- A record whose fact holds its id finds a rule there. -/
lemma Placed.rule (hr : Placed z s r) (hs : s.Consistent)
    (hoffer : z.offer (registryOf z s) r = .ok id) :
    ∃ old, s.mined.find? id = some old ∧ old.fact = r.fact := by
  have hholder := hr id hoffer
  rw [holder_of_not_static (not_static_of_offer hs hoffer)] at hholder
  exact Option.map_eq_some_iff.mp hholder

/-- A record that is offered the same id is about the same fact. -/
lemma Placed.of_offer_eq (hr : Placed z s r) (hs : s.Consistent)
    (hoffer : z.offer (registryOf z s) r' = z.offer (registryOf z s) r) : Placed z s r' := by
  intro id hid
  obtain ⟨old, hold, hfact⟩ := hr.rule hs (hoffer.symm.trans hid)
  rw [hr id (hoffer.symm.trans hid), ← hfact, fact_of_offer hs hid hold]

/-- A settled record has a rule at its id; if this is a draft, it has the record's content. -/
lemma Settled.rule {report : IngestReport} (hr : Settled z s r report)
    (hoffer : z.offer (registryOf z s) r = .ok id) :
    ∃ old, s.mined.find? id = some old ∧
      (old.status = .draft → ∀ now, old.sameContent (z.draft id now r) = true) := by
  cases hr with
  | unsynthesized e he =>
    rw [hoffer] at he
    cases he
  | unchanged id' old hoffer' hold hsame =>
    rw [hoffer] at hoffer'
    cases hoffer'
    exact ⟨old, hold, fun _ => hsame⟩
  | refused id' old hoffer' hold _ hfinal =>
    rw [hoffer] at hoffer'
    cases hoffer'
    exact ⟨old, hold, fun hdraft => absurd hdraft hfinal⟩

/-- A draft at the id of a settled record has the record's content. -/
lemma Settled.sameContent {report : IngestReport} (hr : Settled z s r report)
    (hoffer : z.offer (registryOf z s) r = .ok id) {old : MinedRule}
    (hold : s.mined.find? id = some old) (hdraft : old.status = .draft) (now : Instant) :
    old.sameContent (z.draft id now r) = true := by
  obtain ⟨old', hold', hsame⟩ := hr.rule hoffer
  rw [hold] at hold'
  cases hold'
  exact hsame hdraft now

lemma Settled.placed {report : IngestReport} (hr : Settled z s r report) (hs : s.Consistent) :
    Placed z s r := by
  intro id hoffer
  obtain ⟨old, hold, -⟩ := hr.rule hoffer
  rw [hs.holder_of_mined hold, fact_of_offer hs hoffer hold]

/-! ## What a pass leaves of the records it has met -/

/-- The last of the records that are offered the id of a record is settled. -/
def Answered (z : Synthesizer) (s : Store) (records : List Record) (r : Record) : Prop :=
  ∃ r' ∈ records, z.offer (registryOf z s) r' = z.offer (registryOf z s) r ∧
    ∃ report, Settled z s r' report

lemma Answered.placed (hr : Answered z s records r) (hs : s.Consistent) : Placed z s r := by
  obtain ⟨r', -, hoffer, report, hsettled⟩ := hr
  exact (hsettled.placed hs).of_offer_eq hs hoffer.symm

/-- One more record: where it is offered the id of an earlier one, it is the last now. -/
lemma Answered.step (hr : Answered z s records r) (hs : s.Coherent) (ht : t.Coherent)
    {x : Record} (hst : Spares z x s t) {report : IngestReport} (hx : Settled z t x report) :
    Answered z t (records ++ [x]) r := by
  have hplaced := hr.placed hs.consistent
  obtain ⟨r', hr', hoffer', report', hsettled⟩ := hr
  have hkeep := hplaced.offer_eq hs.consistent ht.consistent hst.holders
  by_cases hsame : z.offer (registryOf z s) x = z.offer (registryOf z s) r
  -- the new record has the last word on its own id, and leaves all others alone
  · have hkeep' := (hplaced.of_offer_eq hs.consistent hsame).offer_eq hs.consistent
      ht.consistent hst.holders
    exact ⟨x, by simp, by rw [hkeep', hsame, hkeep], report, hx⟩
  · have hkeep' := (hsettled.placed hs.consistent).offer_eq hs.consistent ht.consistent
      hst.holders
    refine ⟨r', by simp [hr'], by rw [hkeep', hoffer', hkeep], report', ?_⟩
    refine hsettled.keep hs.consistent ht.consistent hst.holders fun id old hoffer hold => ?_
    refine ⟨old.status, ?_, fun _ => rfl⟩
    rw [hst.rules id, hold]
    rw [← hoffer, hoffer']
    exact hsame

/-- After a pass every record that it has met is answered. -/
theorem steps_answer (h : s.Coherent) {seen : List Record}
    (hseen : ∀ r ∈ seen, Answered z s seen r) (records : List Record) (clock : Clock) :
    ∃ report t, steps (record z) (start z s clock) records
        = (report, start z t (clock.after records.length)) ∧
      t.Coherent ∧ ∀ r ∈ seen ++ records, Answered z t (seen ++ records) r := by
  induction records generalizing s seen clock with
  | nil => exact ⟨.empty, s, rfl, h, by simpa using hseen⟩
  | cons x records ih =>
    obtain ⟨first, t, hrecord, ht, hsettled, hst⟩ := record_settles h z clock x
    have hseen' : ∀ r ∈ seen ++ [x], Answered z t (seen ++ [x]) r := by
      intro r hr
      rcases List.mem_append.mp hr with hr | hr
      · exact (hseen r hr).step h ht hst hsettled
      · rw [List.mem_singleton.mp hr]
        exact ⟨x, by simp, rfl, _, hsettled⟩
    obtain ⟨others, u, hsteps, hu, hanswered⟩ := ih ht hseen' (clock.after 1)
    refine ⟨first ++ others, u, ?_, hu, by simpa using hanswered⟩
    rw [steps, hrecord]
    dsimp only
    rw [hsteps, Clock.after_after, List.length_cons, Nat.add_comm]

/-! ## A second pass -/

/-- A record that has its id is settled, or it takes the place of a draft. -/
lemma settled_or_replaced (h : s.Coherent) (hr : Placed z s r) (clock : Clock) :
    (∃ report, Settled z s r report ∧ report.inserted = 0 ∧ report.replaced = 0) ∨
      (∃ report t, record z (start z s clock) r = (report, start z t (clock.after 1)) ∧
        report.inserted = 0 ∧ report.replaced = 1 ∧ t.Coherent ∧ s.KeepsHolders t ∧
        ∀ report, ¬ Settled z s r report) := by
  cases hoffer : z.offer (registryOf z s) r with
  | error e => exact Or.inl ⟨_, .unsynthesized e hoffer, rfl, rfl⟩
  | ok id =>
    obtain ⟨old, hold, -⟩ := hr.rule h.consistent hoffer
    cases outcome_of_offer h.consistent hoffer clock.now with
    | inserted x hfree _ =>
      rw [Synthesizer.id_draft, hold] at hfree
      cases hfree
    | unchanged old hold _ hsame _ =>
      refine Or.inl ⟨_, .unchanged id old hoffer hold fun now => ?_, rfl, rfl⟩
      rw [Synthesizer.sameContent_draft old now clock.now, hsame]
    | refused old hold _ hsame hfinal _ =>
      refine Or.inl ⟨_, .refused id old hoffer hold (fun now => ?_) hfinal, rfl, rfl⟩
      rw [Synthesizer.sameContent_draft old now clock.now, hsame]
    | replaced x old hold _ hsame hdraft hs =>
      refine Or.inr ⟨_, _, record_of_offer_ok h hoffer clock, ?_, ?_, h.after _,
        keepsHolders_after_draft h.consistent hoffer clock.now, ?_⟩
      · rw [submit, hs]
        rfl
      · rw [submit, hs]
        rfl
      · intro report hsettled
        rw [hsettled.sameContent hoffer hold hdraft clock.now] at hsame
        cases hsame

/-- A pass over records that have their ids inserts nothing, and it replaces nothing just when
all of them are settled. -/
theorem steps_placed (h : s.Coherent) (hrecords : ∀ r ∈ records, Placed z s r) (clock : Clock) :
    (steps (record z) (start z s clock) records).1.inserted = 0 ∧
    (((steps (record z) (start z s clock) records).1.replaced = 0 ∧
        (steps (record z) (start z s clock) records).2.store = s) ↔
      ∀ r ∈ records, ∃ report, Settled z s r report) := by
  induction records generalizing s clock with
  | nil => exact ⟨rfl, fun _ => List.forall_mem_nil _, fun _ => ⟨rfl, rfl⟩⟩
  | cons r records ih =>
    -- the induction is over any store, since a replaced draft changes the one for the rest
    rcases settled_or_replaced h (hrecords r List.mem_cons_self) clock with
      ⟨report, hsettled, hinserted, hreplaced⟩ |
      ⟨report, t, hrecord, hinserted, hreplaced, ht, hst, hnot⟩
    · -- a settled record leaves the store to the others as it is
      obtain ⟨hrest, hiff⟩ :=
        ih h (fun r' hr' => hrecords r' (List.mem_cons_of_mem r hr')) (clock.after 1)
      rw [steps, record_of_settled h hsettled clock]
      simp only [IngestReport.inserted_append, IngestReport.replaced_append, hinserted,
        hreplaced, hrest, Nat.zero_add, hiff, List.forall_mem_cons, true_and]
      exact ⟨fun hall => ⟨⟨report, hsettled⟩, hall⟩, fun hall => hall.2⟩
    · obtain ⟨hrest, -⟩ := ih ht (fun r' hr' => (hrecords r' (List.mem_cons_of_mem r hr')).keep
        h.consistent ht.consistent hst) (clock.after 1)
      rw [steps, hrecord]
      simp only [IngestReport.inserted_append, IngestReport.replaced_append, hinserted,
        hreplaced, hrest, List.forall_mem_cons]
      refine ⟨trivial, fun hchange => ?_, fun hall => ?_⟩
      · omega
      · obtain ⟨report', hsettled⟩ := hall.1
        exact absurd hsettled (hnot report')

/-! ## Records that share a draft -/

/-- Records for which the store has one draft name one release and one replacement. -/
def Concordant (z : Synthesizer) (s : Store) (records : List Record) : Prop :=
  ∀ r ∈ records, ∀ r' ∈ records, ∀ id old, z.offer (registryOf z s) r = .ok id →
    z.offer (registryOf z s) r' = .ok id → s.mined.find? id = some old → old.status = .draft →
      Text.trimmed r.release = Text.trimmed r'.release ∧
        Synthesizer.replacementOf r = Synthesizer.replacementOf r'

/-- A record is settled by any rule at its id, unless this is a draft of other content. -/
lemma exists_settled {old : MinedRule} (hoffer : z.offer (registryOf z s) r = .ok id)
    (hold : s.mined.find? id = some old)
    (hdraft : old.status = .draft → ∀ now, old.sameContent (z.draft id now r) = true) :
    ∃ report, Settled z s r report := by
  by_cases hsame : ∀ now, old.sameContent (z.draft id now r) = true
  · exact ⟨_, .unchanged id old hoffer hold hsame⟩
  · obtain ⟨now, hnow⟩ := not_forall.mp hsame
    refine ⟨_, .refused id old hoffer hold (fun now' => ?_) (mt hdraft hsame)⟩
    rw [Synthesizer.sameContent_draft old now' now, Bool.eq_false_iff]
    exact hnow

/-- Of records that are answered, all are settled just when those that share a draft agree. -/
theorem settled_iff_concordant (hs : s.Consistent)
    (hrecords : ∀ r ∈ records, Answered z s records r) :
    (∀ r ∈ records, ∃ report, Settled z s r report) ↔ Concordant z s records := by
  have hfact : ∀ {r r' : Record} {id old}, z.offer (registryOf z s) r = .ok id →
      z.offer (registryOf z s) r' = .ok id → s.mined.find? id = some old → r.fact = r'.fact :=
    fun hoffer hoffer' hold =>
      (fact_of_offer hs hoffer hold).symm.trans (fact_of_offer hs hoffer' hold)
  constructor
  · intro hall r hr r' hr' id old hoffer hoffer' hold hdraft
    obtain ⟨report, hsettled⟩ := hall r hr
    obtain ⟨report', hsettled'⟩ := hall r' hr'
    have hsame : (z.draft id .last r).sameContent (z.draft id .last r') = true :=
      MinedRule.sameContent_trans
        (MinedRule.sameContent_symm (hsettled.sameContent hoffer hold hdraft .last))
        (hsettled'.sameContent hoffer' hold hdraft .last)
    exact (Synthesizer.sameContent_drafts_iff (hfact hoffer hoffer' hold) _ _).mp hsame
  · intro hconcord r hr
    cases hoffer : z.offer (registryOf z s) r with
    | error e => exact ⟨_, .unsynthesized e hoffer⟩
    | ok id =>
      obtain ⟨old, hold, -⟩ := ((hrecords r hr).placed hs).rule hs hoffer
      refine exists_settled hoffer hold fun hdraft now => ?_
      -- the draft is that of the last record that is offered this id
      obtain ⟨r', hr', hsame, report', hsettled'⟩ := hrecords r hr
      have hoffer' := hsame.trans hoffer
      exact MinedRule.sameContent_trans (hsettled'.sameContent hoffer' hold hdraft now)
        ((Synthesizer.sameContent_drafts_iff (hfact hoffer' hoffer hold) _ _).mpr
          (hconcord r' hr' r hr id old hoffer' hoffer hold hdraft))

end Ingest

namespace Store

open Changelog (Section sections)

/-- The versions of some sections are all different, and none of them is another one followed
by a hyphen and a number. -/
def VersionsApart (sections : List Section) : Prop :=
  (sections.map Section.version).Nodup ∧
    ∀ x ∈ sections, ∀ y ∈ sections, ∀ n, y.version ≠ Registry.suffixed x.version n

/-- The records of the sections of a document, one section after the other. -/
def sectionRecords (text : String) : List Record :=
  (Ingest.Release.ofDocument text).flatMap Ingest.Release.records

lemma mem_sectionRecords {text : String} {r : Record} :
    r ∈ sectionRecords text ↔ ∃ x ∈ sections text, r ∈ Changelog.records x.body x.version := by
  simp [sectionRecords, Ingest.ofDocument_eq, Ingest.Release.ofSection, List.mem_flatMap]

/-- Records of sections whose versions are apart share no id. -/
lemma concordant_of_versionsApart {s : Store} (hs : s.Consistent) (z : Synthesizer)
    {text : String} (h : VersionsApart (sections text)) :
    Ingest.Concordant z s (sectionRecords text) := by
  intro r hr r' hr' id old hoffer hoffer' hold _
  obtain ⟨x, hx, hrx⟩ := mem_sectionRecords.mp hr
  obtain ⟨y, hy, hry⟩ := mem_sectionRecords.mp hr'
  have hfact : r.fact = r'.fact :=
    (Ingest.fact_of_offer hs hoffer hold).symm.trans (Ingest.fact_of_offer hs hoffer' hold)
  have hrelease : Text.trimmed r.release = x.version := by
    rw [(Changelog.of_mem_records hrx).2, Text.trimmed_trimmed, Changelog.trimmed_version hx]
  have hrelease' : Text.trimmed r'.release = y.version := by
    rw [(Changelog.of_mem_records hry).2, Text.trimmed_trimmed, Changelog.trimmed_version hy]
  have hversion : x.version = y.version := by
    obtain ⟨-, hchoose⟩ := Synthesizer.offer_eq_ok_iff.mp hoffer
    obtain ⟨-, hchoose'⟩ := Synthesizer.offer_eq_ok_iff.mp hoffer'
    rcases Registry.base_of_choose hchoose hchoose' with hbase | ⟨n, -, hbase⟩ | ⟨n, -, hbase⟩
    · rw [← hrelease, ← hrelease', (Synthesizer.base_eq_iff hfact).mp hbase]
    · have heq := (Synthesizer.base_eq_suffixed_iff hfact).mp hbase
      rw [hrelease, hrelease'] at heq
      exact absurd heq (h.2 x hx y hy n)
    · have heq := (Synthesizer.base_eq_suffixed_iff hfact.symm).mp hbase
      rw [hrelease, hrelease'] at heq
      exact absurd heq (h.2 y hy x hx n)
  obtain rfl : x = y := List.inj_on_of_nodup_map h.1 hx hy hversion
  -- the records of one section state different facts
  have heq : r = r' := by
    have hsymm : Std.Symm fun r s : Record => s.fact ≠ r.fact := ⟨fun _ _ hne => hne.symm⟩
    by_contra hne
    exact (Changelog.pairwise_records x.body x.version).forall hrx hry hne hfact.symm
  exact heq ▸ ⟨rfl, rfl⟩

/-- A document is ingested in one pass over the records of its sections. -/
lemma ingestDocument_eq_steps (z : Synthesizer) (text : String) (s : Store) (clock : Clock) :
    (s.ingestDocument z text clock).1.onRecords = (Ingest.steps (Ingest.record z)
        (Ingest.start z s clock) (sectionRecords text)).1.onRecords ∧
      (s.ingestDocument z text clock).2.1 = (Ingest.steps (Ingest.record z)
        (Ingest.start z s clock) (sectionRecords text)).2.store :=
  Ingest.cycle_eq_steps z (Ingest.Release.ofDocument text) s clock

/-- The second cycle over a document inserts nothing, and it replaces nothing just when the
records that share a draft agree. -/
lemma ingestDocument_again {s : Store} (h : s.Coherent) (z : Synthesizer) (text : String)
    (first second : Clock) :
    let once := s.ingestDocument z text first
    let twice := once.2.1.ingestDocument z text second
    twice.1.inserted = 0 ∧
    ((twice.1.replaced = 0 ∧ twice.2.1 = once.2.1) ↔
      Ingest.Concordant z once.2.1 (sectionRecords text)) := by
  intro once twice
  -- the first cycle answers every record
  obtain ⟨report, t, hsteps, ht, hanswered⟩ := Ingest.steps_answer h
    (List.forall_mem_nil (Ingest.Answered z s [])) (sectionRecords text) first
  rw [List.nil_append] at hanswered
  have honce : once.2.1 = t := by
    rw [(ingestDocument_eq_steps z text s first).2, hsteps]
    rfl
  -- so the second one finds every record in its place
  obtain ⟨hreport, hstore⟩ := ingestDocument_eq_steps z text t second
  have hinserted := congrArg IngestReport.inserted hreport
  have hreplaced := congrArg IngestReport.replaced hreport
  simp only [IngestReport.onRecords] at hinserted hreplaced
  obtain ⟨hnone, hiff⟩ := Ingest.steps_placed ht
    (fun r hr => (hanswered r hr).placed ht.consistent) second
  rw [Ingest.settled_iff_concordant ht.consistent hanswered, ← hreplaced, ← hstore] at hiff
  have htwice : twice = t.ingestDocument z text second := by rw [← honce]
  rw [htwice, honce]
  exact ⟨hinserted.trans hnone, hiff⟩

/-- **When a document changes nothing the second time.**  After any run a document is ingested
twice.  The second cycle inserts no rule.  It replaces none and leaves the store as it finds it
just when the records of the document that share a draft name one release and one replacement;
and they do if the versions of the sections are apart. -/
theorem second_ingestDocument_changes_nothing_iff (ops : List Op) (z : Synthesizer)
    (text : String) (first second : Clock) :
    let once := (empty.run ops).ingestDocument z text first
    let twice := once.2.1.ingestDocument z text second
    twice.1.inserted = 0 ∧
    ((twice.1.replaced = 0 ∧ twice.2.1 = once.2.1) ↔
      Ingest.Concordant z once.2.1 (sectionRecords text)) ∧
    (VersionsApart (sections text) → Ingest.Concordant z once.2.1 (sectionRecords text)) := by
  obtain ⟨hinserted, hiff⟩ := ingestDocument_again (coherent_run ops) z text first second
  refine ⟨hinserted, hiff, concordant_of_versionsApart ?_ z⟩
  rw [← after_ingestDocument]
  exact ((coherent_run ops).after (.ingestDocument z text first)).consistent

/-- Two sections of one version, which rename a token to different ones. -/
def contradictingNotes : String :=
  "## 1.0\n`<a>` has been renamed to `b`\n## 1.0\n`<a>` has been renamed to `c`\n"

/-- The record of a renaming in the release `1.0`. -/
def renamedTo (new : String) : Record where
  token := "<a>"
  replacement := some new
  category := .renamed
  release := "1.0"

lemma sectionRecords_contradictingNotes :
    sectionRecords contradictingNotes = [renamedTo "b", renamedTo "c"] := by
  cbv

/-- A renaming is offered the base id, unless another fact or a static rule has it. -/
lemma offer_renamedTo {s : Store} (hs : s.Consistent) {new : String}
    (h : s.holder "auto-a-1.0" = none ∨ s.holder "auto-a-1.0" = some (renamedTo new).fact) :
    plain.offer (Ingest.registryOf plain s) (renamedTo new) = .ok "auto-a-1.0" := by
  have hfault : plain.fault (renamedTo new) = none := by
    obtain ⟨htoken, hrelease, hpattern, hslug⟩ :=
      Synthesizer.fault_eq_none_iff.mp fault_sampleRecord
    exact Synthesizer.fault_eq_none_iff.mpr ⟨htoken, hrelease, hpattern, hslug⟩
  have hbase : (renamedTo new).base = "auto-a-1.0" := by
    show sampleRecord.base = _
    decide
  refine Synthesizer.offer_eq_ok_iff.mpr ⟨hfault, ?_⟩
  rw [hbase]
  apply Registry.choose_of_admits_base
  rwa [Registry.admits_iff, Ingest.holder_registryOf plain hs]

/-- A renaming that comes to a free id or to a draft leaves a draft there. -/
lemma record_renamedTo {s : Store} (hs : s.Coherent) (new : String) (clock : Clock)
    (h : s.holder "auto-a-1.0" = none ∨ s.holder "auto-a-1.0" = some (renamedTo new).fact)
    (hdraft : ∀ old, s.mined.find? "auto-a-1.0" = some old → old.status = .draft) :
    ∃ report t, Ingest.record plain (Ingest.start plain s clock) (renamedTo new)
        = (report, Ingest.start plain t (clock.after 1)) ∧ t.Coherent ∧
      t.holder "auto-a-1.0" = some (renamedTo new).fact ∧
      ∃ old, t.mined.find? "auto-a-1.0" = some old ∧ old.status = .draft := by
  have hoffer := offer_renamedTo hs.consistent h
  refine ⟨_, _, Ingest.record_of_offer_ok hs hoffer clock, hs.after _, ?_, ?_⟩
  · rw [Ingest.holder_after_draft hs.consistent hoffer, if_pos rfl]
  · obtain ⟨-, hput | ⟨hmined, old, hold, -⟩⟩ :=
      Ingest.mined_after_draft hs.consistent hoffer clock.now
    · rw [hput, Keyed.find?_insert_self]
      exact ⟨_, rfl, rfl⟩
    · rw [hmined]
      exact ⟨old, hold, hdraft old hold⟩

/-- The two renamings take turns: each time the document is read, each gives way to the
other. -/
theorem contradictingNotes_never_settle :
    let once := empty.ingestDocument plain contradictingNotes (.ofEpoch 0)
    let twice := once.2.1.ingestDocument plain contradictingNotes once.2.2
    ¬ (twice.1.inserted = 0 ∧ twice.1.replaced = 0 ∧ twice.2.1 = once.2.1) := by
  intro once twice
  rintro ⟨-, hreplaced, hstore⟩
  obtain ⟨-, hiff⟩ := ingestDocument_again coherent_empty plain contradictingNotes (.ofEpoch 0)
    once.2.2
  have hconcord : Ingest.Concordant plain once.2.1 (sectionRecords contradictingNotes) :=
    hiff.mp ⟨hreplaced, hstore⟩
  obtain ⟨report, s, hfirst, hs, hholder, old, hold, hdraft⟩ :=
    record_renamedTo coherent_empty "b" (.ofEpoch 0) (Or.inl rfl) (fun _ h => by cases h)
  obtain ⟨report', t, hsecond, ht, hholder', old', hold', hdraft'⟩ :=
    record_renamedTo hs "c" ((Clock.ofEpoch 0).after 1) (Or.inr hholder)
      (fun _ h => by rw [hold] at h; exact Option.some.inj h ▸ hdraft)
  have honce : once.2.1 = t := by
    rw [(ingestDocument_eq_steps plain contradictingNotes empty (.ofEpoch 0)).2,
      sectionRecords_contradictingNotes]
    simp only [Ingest.steps, hfirst, hsecond]
    rw [Ingest.start]
  -- both of them are offered the id of the draft that is left
  rw [honce, sectionRecords_contradictingNotes] at hconcord
  obtain ⟨-, hreplacement⟩ := hconcord (renamedTo "b") (by simp) (renamedTo "c") (by simp)
    "auto-a-1.0" old' (offer_renamedTo ht.consistent (Or.inr hholder'))
    (offer_renamedTo ht.consistent (Or.inr hholder')) hold' hdraft'
  exact absurd hreplacement (by decide)

end Store
end Deprecation
