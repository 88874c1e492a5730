/-
# Jobs of a service

What a service does for an operator: it ingests the notes of one release or a whole changelog,
or it reviews a rule.  Each of these is an operation on the store, so a service that stands on
a catalogue goes on standing on it, and a rule that was once reviewed keeps its status, whatever
the service is asked to do.
-/
import Mathlib
import Deprecation.Proofs.Service.Start
import Deprecation.Proofs.Store.Active

namespace Deprecation

/-- What a service is asked to do. -/
inductive Job where
  | ingest (text version : String)
  | ingestDocument (text : String)
  | review (id : String) (d : Decision)

/-- What a service answers. -/
inductive Answer where
  | ingested (report : IngestReport)
  | reviewed (r : MinedRule)
  | refused (e : StoreError)
deriving DecidableEq

/-- Whether a job was refused. -/
def Answer.isRefused : Answer → Bool
  | refused _ => true
  | _ => false

/-- A job as an operation on the store. -/
def Job.op (z : Synthesizer) (clock : Clock) : Job → Store.Op
  | ingest text version => .ingest z text version clock
  | ingestDocument text => .ingestDocument z text clock
  | review id d => .setStatus id d.status

lemma Job.isRestore_op (z : Synthesizer) (clock : Clock) (job : Job) :
    (job.op z clock).isRestore = false := by
  cases job <;> rfl

lemma Job.isMining_op (z : Synthesizer) (clock : Clock) (job : Job) :
    (job.op z clock).isMining = true := by
  cases job <;> rfl

namespace Service

variable {x : Service} {clock : Clock} {c : Catalogue}

/-- Does a job.  A review that is refused leaves the service as it is. -/
def perform (x : Service) (clock : Clock) : Job → Answer × Service × Clock
  | .ingest text version =>
    let (report, x, clock) := x.ingest text version clock
    (.ingested report, x, clock)
  | .ingestDocument text =>
    let (report, x, clock) := x.ingestDocument text clock
    (.ingested report, x, clock)
  | .review id d =>
    match x.review id d with
    | .ok (r, x) => (.reviewed r, x, clock)
    | .error e => (.refused e, x, clock)

/-- Does jobs one after the other. -/
def performAll (x : Service) (clock : Clock) : List Job → List Answer × Service × Clock
  | [] => ([], x, clock)
  | job :: jobs =>
    let (answer, x, clock) := x.perform clock job
    let (answers, x, clock) := performAll x clock jobs
    (answer :: answers, x, clock)

/-! ## One job -/

lemma review_eq (x : Service) (id : String) (d : Decision) :
    x.review id d = (x.store.setStatus id d.status).map fun p => (p.1, { x with store := p.2 }) :=
  rfl

@[simp] lemma settings_perform (x : Service) (clock : Clock) (job : Job) :
    (x.perform clock job).2.1.settings = x.settings := by
  cases job with
  | ingest text version => rfl
  | ingestDocument text => rfl
  | review id d =>
    rw [perform, review_eq]
    cases x.store.setStatus id d.status with
    | error e => rfl
    | ok p => rfl

/-- A job is an operation on the store. -/
theorem store_perform (x : Service) (clock : Clock) (job : Job) :
    (x.perform clock job).2.1.store = x.store.after (job.op x.settings.synthesizer clock) := by
  cases job with
  | ingest text version => rfl
  | ingestDocument text => rfl
  | review id d =>
    rw [perform, review_eq, Job.op, Store.after, Store.attempt]
    cases x.store.setStatus id d.status with
    | error e => rfl
    | ok p => rfl

/-- A refused job changes nothing. -/
lemma perform_of_refused {job : Job} (h : (x.perform clock job).1.isRefused = true) :
    (x.perform clock job).2.1 = x := by
  cases job with
  | ingest text version => cases h
  | ingestDocument text => cases h
  | review id d =>
    rw [perform] at h ⊢
    cases hreview : x.review id d with
    | error e => rfl
    | ok p =>
      rw [hreview] at h
      cases h

lemma perform_review_of_ok {id : String} {d : Decision} {r : MinedRule} {store : Store}
    (h : x.store.setStatus id d.status = .ok (r, store)) (clock : Clock) :
    x.perform clock (.review id d) = (.reviewed r, { x with store }, clock) := by
  rw [perform, review_eq, h]
  rfl

/-- A review that is accepted gives the rule the status that was decided on. -/
lemma status_of_reviewed {id : String} {d : Decision} {r : MinedRule}
    (h : (x.perform clock (.review id d)).1 = .reviewed r) :
    ∃ r', (x.perform clock (.review id d)).2.1.store.mined.find? id = some r' ∧
      r'.status = d.status ∧ d.status ≠ .draft := by
  cases hset : x.store.setStatus id d.status with
  | error e =>
    rw [perform, review_eq, hset] at h
    cases h
  | ok p =>
    obtain ⟨reviewed, store⟩ := p
    rw [perform_review_of_ok hset]
    obtain ⟨old, -, -, hfinal, rfl, rfl⟩ := Store.setStatus_eq_ok_iff.mp hset
    exact ⟨_, Keyed.find?_insert_self _ _ _, rfl, hfinal⟩

/-! ## What jobs keep -/

lemma StandsOn.perform (h : StandsOn x.store c) (clock : Clock) (job : Job) :
    StandsOn (x.perform clock job).2.1.store c := by
  obtain ⟨hstatics, hentries⟩ :=
    x.store.statics_entries_after (job.isMining_op x.settings.synthesizer clock)
  rw [store_perform]
  exact ⟨h.coherent.after _, hstatics.trans h.statics, hentries.trans h.entries⟩

/-- Jobs bring no instant off the clock. -/
lemma onClock_perform (h : x.store.contents.OnClock) (clock : Clock) (job : Job) :
    (x.perform clock job).2.1.store.contents.OnClock := by
  rw [store_perform]
  apply Store.onClock_after h
  cases job <;> trivial

lemma coherent_perform (h : x.store.Coherent) (clock : Clock) (job : Job) :
    (x.perform clock job).2.1.store.Coherent := by
  rw [store_perform]
  exact h.after _

/-- A mined rule with a status that is no draft's. -/
def HoldsReviewed (x : Service) (id : String) (status : Status) : Prop :=
  status ≠ .draft ∧ ∃ r, x.store.mined.find? id = some r ∧ r.status = status

/-- A reviewed rule stays reviewed, whatever the service is asked to do. -/
theorem HoldsReviewed.perform {id : String} {status : Status} (h : x.HoldsReviewed id status)
    (clock : Clock) (job : Job) : (x.perform clock job).2.1.HoldsReviewed id status := by
  obtain ⟨hfinal, r, hr, hstatus⟩ := h
  refine ⟨hfinal, r, ?_, hstatus⟩
  rw [store_perform]
  rcases x.store.redrafts_or_reviews (Job.isRestore_op x.settings.synthesizer clock job) id with
    (heq | ⟨hdraft, -⟩) | ⟨status', hreview⟩
  · rw [heq, hr]
  · exact absurd (hstatus ▸ hdraft r hr) hfinal
  · obtain ⟨r', hr', hdraft, -⟩ := hreview.find?
    rw [hr] at hr'
    cases hr'
    exact absurd (hstatus ▸ hdraft) hfinal

end Service

end Deprecation
