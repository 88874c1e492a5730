/-
# A process for each job

On the command line every job has a process of its own: a service opens, does the job, and
keeps its store for the next one.  This file shows that nothing is lost on the way.  As long as
nobody else touches the kept state, the processes answer as one service would that did all the
jobs, and in the end the kept state is the store of that service.  In particular no process
fails to open: the ids that mining gives are never those of the catalogue, so the catalogue can
be loaded over whatever the jobs before have kept.  The commands that ingest notes and review
rules are such processes, and what they show follows from how these end.
-/
import Mathlib
import Deprecation.Command.Run
import Deprecation.Proofs.Service.Job

namespace Deprecation
namespace Service

open FileTree

/-! ## One process -/

/-- How a process ends. -/
inductive Ending where
  /-- The service did not open. -/
  | closed (e : ServiceError)
  /-- The service has answered, and has kept its store if the job was not refused. -/
  | ended (answer : Answer) (kept : Except StoreError Unit)

/-- Opens a service for one job. -/
def process {m : Type → Type} [Monad m] [Disk m] (s : Settings) (clock : Clock) (job : Job) :
    m (Ending × Clock) := do
  match ← (start s).run with
  | .error e => pure (.closed e, clock)
  | .ok x =>
    let (answer, x, clock) := x.perform clock job
    if answer.isRefused then pure (.ended answer (.ok ()), clock)
    else
      let kept ← x.persist.run
      pure (.ended answer kept, clock)

variable {s : Settings} {c : Catalogue} {x : Service} {t t' : FileTree} {clock : Clock} {job : Job}

lemma outcome_persist (x : Service) (t : FileTree) :
    outcome x.persist t =
      ((outcome (SnapshotFile.save x.settings.storeFile x.store.persist) t).1.mapError .medium,
        (outcome (SnapshotFile.save x.settings.storeFile x.store.persist) t).2) :=
  outcome_adapt t StoreError.medium _

/-- A store that was kept is read. -/
lemma read_of_persist_ok (h : (outcome x.persist t).1 = .ok ()) :
    (outcome x.persist t).2.read x.settings.storeFile = .ok x.store.persist := by
  rw [outcome_persist] at h ⊢
  dsimp only at h ⊢
  cases hsaved : (outcome (SnapshotFile.save x.settings.storeFile x.store.persist) t).1 with
  | error e =>
    rw [hsaved] at h
    cases h
  | ok u => exact SnapshotFile.read_of_save_ok hsaved

/-- A store that could not be kept leaves the one before. -/
lemma read_of_persist_error {e : StoreError} (h : (outcome x.persist t).1 = .error e)
    {old : ByteArray} (hread : t.read x.settings.storeFile = .ok old) :
    (outcome x.persist t).2.read x.settings.storeFile = .ok old := by
  rw [outcome_persist] at h ⊢
  dsimp only at h ⊢
  cases hsaved : (outcome (SnapshotFile.save x.settings.storeFile x.store.persist) t).1 with
  | error e => exact SnapshotFile.read_of_save_error hsaved hread
  | ok u =>
    rw [hsaved] at h
    cases h

/-- What a process does on a tree on which its service opens. -/
lemma process_of_opening (h : opening s t = .ok x) (clock : Clock) (job : Job) :
    (process s clock job : StateM FileTree _) t =
      if (x.perform clock job).1.isRefused then
        ((.ended (x.perform clock job).1 (.ok ()), (x.perform clock job).2.2), t)
      else
        ((.ended (x.perform clock job).1 (outcome (x.perform clock job).2.1.persist t).1,
          (x.perform clock job).2.2), (outcome (x.perform clock job).2.1.persist t).2) := by
  have hstart : (start s : ExceptT ServiceError (StateM FileTree) Service).run t = (.ok x, t) := by
    rw [← h]
    exact outcome_start s t
  rw [process, bind_apply, hstart]
  dsimp only
  split
  · rfl
  · rw [bind_apply]
    rfl

lemma process_of_closed {e : ServiceError} (h : opening s t = .error e) (clock : Clock)
    (job : Job) :
    (process s clock job : StateM FileTree _) t = ((.closed e, clock), t) := by
  have hstart : (start s : ExceptT ServiceError (StateM FileTree) Service).run t
      = (.error e, t) := by
    rw [← h]
    exact outcome_start s t
  rw [process, bind_apply, hstart]
  rfl

lemma process_of_done (h : opening s t = .ok x) {answer : Answer} {x' : Service} {clock' : Clock}
    (hperform : x.perform clock job = (answer, x', clock')) (hdone : answer.isRefused = false) :
    (process s clock job : StateM FileTree _) t =
      ((.ended answer (outcome x'.persist t).1, clock'), (outcome x'.persist t).2) := by
  rw [process_of_opening h, hperform]
  dsimp only
  rw [hdone, if_neg Bool.false_ne_true]

/-! ## Commands -/

/-- What a command shows of how its process has ended. -/
def Ending.toOutcome : Ending → Outcome
  | closed e => .failed e.message
  | ended (.refused e) _ => .failed e.message
  | ended (.ingested report) (.ok ()) => { shown := report.shown }
  | ended (.ingested report) (.error e) => .failed e.message report.shown
  | ended (.reviewed r) (.ok ()) =>
    { shown := "✓ " ++ r.id ++ " is now " ++ r.status.name ++ "\n" }
  | ended (.reviewed _) (.error e) => .failed e.message

lemma persisted_apply (x : Service) (shown orElse : String) (t : FileTree) :
    (Command.persisted x shown orElse : StateM FileTree Outcome) t =
      (match (outcome x.persist t).1 with
        | .ok () => { shown }
        | .error e => .failed e.message orElse, (outcome x.persist t).2) := by
  rw [Command.persisted, bind_apply]
  show (match (outcome x.persist t).1 with
    | .ok () => pure _
    | .error e => pure _ : StateM FileTree Outcome) (outcome x.persist t).2 = _
  cases (outcome x.persist t).1 with
  | ok u => rfl
  | error e => rfl

/-- The command that reviews a rule is a process for that review. -/
theorem runReview_eq_process (h : opening s t = .ok x) (id : String) (d : Decision) :
    (Command.runReview x id d : StateM FileTree Outcome) t =
      (((process s clock (.review id d) : StateM FileTree _) t).1.1.toOutcome,
        ((process s clock (.review id d) : StateM FileTree _) t).2) := by
  rw [Command.runReview]
  cases hreview : x.review id d with
  | error e =>
    have hperform : x.perform clock (.review id d) = (.refused e, x, clock) := by
      rw [perform, hreview]
    rw [process_of_opening h, hperform]
    rfl
  | ok p =>
    obtain ⟨r, x'⟩ := p
    have hperform : x.perform clock (.review id d) = (.reviewed r, x', clock) := by
      rw [perform, hreview]
    rw [process_of_done h hperform rfl]
    dsimp only
    rw [persisted_apply]
    cases (outcome x'.persist t).1 with
    | ok u => rfl
    | error e => rfl

/-- The job of ingesting notes of some form. -/
def notesJob (text : String) : NotesForm → Job
  | .release version => .ingest text version
  | .document => .ingestDocument text

/-- The command that ingests notes is a process for that ingestion. -/
theorem runIngest_eq_process {file text : String} (h : opening s t = .ok x)
    (htext : t.textAt file = .ok text) (form : NotesForm) :
    (Command.runIngest x clock file form : StateM FileTree Outcome) t =
      (((process s clock (notesJob text form) : StateM FileTree _) t).1.1.toOutcome,
        ((process s clock (notesJob text form) : StateM FileTree _) t).2) := by
  have hread : (Disk.readText file : ExceptT FileError (StateM FileTree) String).run t
      = (.ok text, t) := by
    rw [← htext]
    exact outcome_readText t file
  have hended : ∀ (x' : Service) (report : IngestReport) (clock' : Clock),
      x.perform clock (notesJob text form) = (.ingested report, x', clock') →
      (Command.persisted x' report.shown report.shown : StateM FileTree Outcome) t =
        (((process s clock (notesJob text form) : StateM FileTree _) t).1.1.toOutcome,
          ((process s clock (notesJob text form) : StateM FileTree _) t).2) := by
    intro x' report clock' hperform
    rw [process_of_done h hperform rfl, persisted_apply]
    dsimp only
    cases (outcome x'.persist t).1 with
    | ok u => rfl
    | error e => rfl
  rw [Command.runIngest, bind_apply, hread]
  cases form with
  | release version => exact hended _ _ _ rfl
  | document => exact hended _ _ _ rfl

/-- What a process leaves: the tree as it was, or the tree in which some snapshot was kept or
could not be kept. -/
lemma tree_process (s : Settings) (clock : Clock) (job : Job) (t : FileTree) :
    ((process s clock job : StateM FileTree _) t).2 = t ∨
      ∃ bytes, ((process s clock job : StateM FileTree _) t).2
        = (outcome (SnapshotFile.save s.storeFile bytes) t).2 := by
  cases hopen : opening s t with
  | error e =>
    rw [process_of_closed hopen]
    exact Or.inl rfl
  | ok x =>
    rw [process_of_opening hopen]
    split
    · exact Or.inl rfl
    · right
      refine ⟨(x.perform clock job).2.1.store.persist, ?_⟩
      rw [outcome_persist, settings_perform, (opening_eq_ok_iff.mp hopen).1]

/-- A process leaves the catalogue as it is, unless its file is one of the two that keeping the
state touches. -/
theorem catalogueIn_process (hcatalogue : s.catalogueIn t = .ok c)
    (hapart : ∀ path, s.cataloguePath = some path →
      leadsTo t.working (s.resolve path) ≠ leadsTo t.working s.storeFile ∧
      leadsTo t.working (s.resolve path)
        ≠ leadsTo t.working (SnapshotFile.temporary s.storeFile)) :
    s.catalogueIn ((process s clock job : StateM FileTree _) t).2 = .ok c := by
  rcases tree_process s clock job t with heq | ⟨bytes, heq⟩
  · rwa [heq]
  · rw [heq, ← hcatalogue]
    refine Settings.catalogueIn_congr fun path hpath => ?_
    obtain ⟨hplace, haside⟩ := hapart path hpath
    obtain ⟨text, hread⟩ := Settings.exists_read_of_catalogueIn hpath hcatalogue
    rw [hread]
    exact SnapshotFile.read_of_save_other hread haside fun h => absurd h hplace

/-! ## Many processes -/

/-- What a process finds on the disk, compared with what the one before has left: others may
have changed any files, but the catalogue is the one of the settings, and the state is the one
that was kept. -/
structure Finds (s : Settings) (c : Catalogue) (t t' : FileTree) : Prop where
  catalogue : s.catalogueIn t' = .ok c
  state : t'.read s.storeFile = t.read s.storeFile

/-- Processes for some jobs, one after the other, from a tree and a clock on: how they end, and
the tree in the end. -/
inductive Processes (s : Settings) (c : Catalogue) :
    FileTree → Clock → List Job → List Ending → FileTree → Prop
  | done {t t' : FileTree} {clock : Clock} (found : Finds s c t t') :
    Processes s c t clock [] [] t'
  | next {t t₁ t₂ t' : FileTree} {clock clock' : Clock} {job : Job} {jobs : List Job}
      {ending : Ending} {endings : List Ending} (found : Finds s c t t₁)
      (ran : (process s clock job : StateM FileTree _) t₁ = ((ending, clock'), t₂))
      (rest : Processes s c t₂ clock' jobs endings t') :
    Processes s c t clock (job :: jobs) (ending :: endings) t'

/-- The next service that opens will be this one: its store was kept, or nothing was kept and it
is the one that opens then. -/
structure Awaits (s : Settings) (c : Catalogue) (t : FileTree) (x : Service) : Prop where
  settings : x.settings = s
  stands : StandsOn x.store c
  onClock : x.store.contents.OnClock
  state : t.read s.storeFile = .ok x.store.persist ∨
    t.read s.storeFile = .error .notFound ∧
      Store.empty.loadStatics c.rules c.entries = .ok x.store

lemma Awaits.opening (h : Awaits s c t x) (hfound : Finds s c t t') : opening s t' = .ok x := by
  rcases h.state with hread | ⟨hnone, hload⟩
  · exact opening_of_kept hfound.catalogue h.settings h.stands h.onClock
      (hfound.state.trans hread)
  · refine opening_eq_ok_iff.mpr ⟨h.settings, c, .empty, hfound.catalogue, ?_, hload⟩
    exact keptIn_of_notFound (hfound.state.trans hnone)

lemma Awaits.found (h : Awaits s c t x) (hfound : Finds s c t t') : Awaits s c t' x := by
  refine ⟨h.settings, h.stands, h.onClock, ?_⟩
  rw [hfound.state]
  exact h.state

/-- One process: it answers as the service would, and the next one takes up what has become of
the service. -/
lemma Awaits.process {ending : Ending} {clock' : Clock} (h : Awaits s c t x)
    (hfound : Finds s c t t)
    (hran : (process s clock job : StateM FileTree _) t = ((ending, clock'), t'))
    (hwritten : ∀ a e, ending ≠ .ended a (.error e)) :
    ending = .ended (x.perform clock job).1 (.ok ()) ∧ clock' = (x.perform clock job).2.2 ∧
      Awaits s c t' (x.perform clock job).2.1 := by
  rw [process_of_opening (h.opening hfound)] at hran
  split at hran
  next hrefused =>
    cases hran
    refine ⟨rfl, rfl, ?_⟩
    rw [perform_of_refused hrefused]
    exact h
  next hdone =>
    have hsettings : (x.perform clock job).2.1.settings = s :=
      (settings_perform x clock job).trans h.settings
    cases hkept : (outcome (x.perform clock job).2.1.persist t).1 with
    | error e =>
      rw [hkept] at hran
      cases hran
      exact absurd rfl (hwritten _ _)
    | ok u =>
      have hread := read_of_persist_ok hkept
      rw [hkept] at hran
      cases hran
      exact ⟨rfl, rfl, hsettings, h.stands.perform clock job, onClock_perform h.onClock clock job,
        Or.inl (hsettings ▸ hread)⟩

/-- **A process for each job does what one service does.**  The catalogue of some settings loads,
its patterns compile, and nothing is kept yet.  Jobs are done in processes of their own, between
which nobody else changes the kept state, and what they keep is written.  Then every process
opens, they answer as the one service would that opens in the beginning and does all the jobs,
by the same clock, and in the end that service is the one that opens: with its static rules, its
mined rules, its entries and its active list. -/
theorem processes_do_what_one_service_does {jobs : List Job} {endings : List Ending}
    (hcatalogue : s.catalogueIn t = .ok c)
    (hcompiles : ∀ r ∈ c.rules, (Regex.compile r.pattern).isSome)
    (hnone : t.read s.storeFile = .error .notFound)
    (hprocesses : Processes s c t clock jobs endings t')
    (hwritten : ∀ a e, .ended a (.error e) ∉ endings) :
    ∃ x, opening s t = .ok x ∧
      endings = (x.performAll clock jobs).1.map (.ended · (.ok ())) ∧
      opening s t' = .ok (x.performAll clock jobs).2.1 := by
  obtain ⟨x, hx, hstands, hclock, hload⟩ := exists_opening hcatalogue hcompiles hnone
  have hawaits : Awaits s c t x :=
    ⟨(opening_eq_ok_iff.mp hx).1, hstands, hclock, Or.inr ⟨hnone, hload⟩⟩
  refine ⟨x, hx, ?_⟩
  clear hx hstands hclock hload hcatalogue hnone
  -- along the processes the next service to open is what one service would have become
  induction hprocesses generalizing x with
  | done found => exact ⟨rfl, hawaits.opening found⟩
  | next found ran rest ih =>
    have hfound := hawaits.found found
    obtain ⟨rfl, rfl, hnext⟩ := hfound.process ⟨found.catalogue, rfl⟩ ran
      fun a e heq => hwritten a e (heq ▸ List.mem_cons_self)
    obtain ⟨hendings, hlast⟩ :=
      ih (fun a e hmem => hwritten a e (List.mem_cons_of_mem _ hmem)) _ hnext
    rw [performAll, hendings]
    exact ⟨rfl, hlast⟩

/-- Settings with a catalogue in a file. -/
def sampleSettings : Settings := { cataloguePath := some "c.toml", storePath := "s.json" }

/-- An empty catalogue, and the state that was kept. -/
def sampleFiles (kept : Option ByteArray) : FileTree where
  nodes := (kept.map fun bytes => (["s.json"], .file bytes)).toList
    ++ [(["c.toml"], .file "".toUTF8)]
  working := []

/-- A rule is mined and approved; a second review of it is refused. -/
def sampleJobs : List Job :=
  [.ingest "Removed `<a>`" "1.0", .review "auto-a-1.0" .approved, .review "auto-a-1.0" .rejected]

lemma save_sampleFiles (kept : Option ByteArray) (bytes : ByteArray) :
    outcome (SnapshotFile.save sampleSettings.storeFile bytes) (sampleFiles kept)
      = (.ok (), sampleFiles (some bytes)) := by
  cases kept <;> rfl

lemma catalogueIn_sampleFiles (kept : Option ByteArray) :
    sampleSettings.catalogueIn (sampleFiles kept) = .ok ⟨[], []⟩ := by
  have hread : (sampleFiles kept).read (sampleSettings.resolve "c.toml") = .ok "".toUTF8 := by
    cases kept <;> rfl
  have htext : (sampleFiles kept).textAt (sampleSettings.resolve "c.toml") = .ok "" := by
    rw [textAt, hread]
    rfl
  rw [Settings.catalogueIn_of_text rfl htext]
  cbv

lemma exists_processes_sampleFiles (jobs : List Job) (kept : Option ByteArray) (clock : Clock) :
    ∃ endings kept', Processes sampleSettings ⟨[], []⟩ (sampleFiles kept) clock jobs endings
      (sampleFiles kept') ∧ ∀ a e, .ended a (.error e) ∉ endings := by
  have hfound : ∀ kept, Finds sampleSettings ⟨[], []⟩ (sampleFiles kept) (sampleFiles kept) :=
    fun kept => ⟨catalogueIn_sampleFiles kept, rfl⟩
  induction jobs generalizing kept clock with
  | nil => exact ⟨[], kept, .done (hfound kept), by simp⟩
  | cons job jobs ih =>
    obtain ⟨ending, clock', kept', hran, hwritten⟩ : ∃ ending clock' kept',
        (process sampleSettings clock job : StateM FileTree _) (sampleFiles kept)
          = ((ending, clock'), sampleFiles kept') ∧ ∀ a e, .ended a (.error e) ≠ ending := by
      cases hopen : opening sampleSettings (sampleFiles kept) with
      | error e => exact ⟨_, _, kept, process_of_closed hopen clock job, by simp⟩
      | ok x =>
        rw [process_of_opening hopen]
        split
        · exact ⟨_, _, kept, rfl, by simp⟩
        · rw [outcome_persist, settings_perform, (opening_eq_ok_iff.mp hopen).1, save_sampleFiles]
          exact ⟨_, _, _, rfl, by simp [Except.mapError]⟩
    obtain ⟨endings, kept'', hrest, hwritten'⟩ := ih kept' clock'
    refine ⟨ending :: endings, kept'', .next (hfound kept) hran hrest, ?_⟩
    intro a e hmem
    rcases List.mem_cons.mp hmem with heq | hmem
    · exact hwritten a e heq
    · exact hwritten' a e hmem

/-- The sample jobs in processes of their own. -/
theorem sampleJobs_do_what_one_service_does :
    ∃ endings t' x,
      Processes sampleSettings ⟨[], []⟩ (sampleFiles none) (.ofEpoch 0) sampleJobs endings t' ∧
      opening sampleSettings (sampleFiles none) = .ok x ∧
      endings = (x.performAll (.ofEpoch 0) sampleJobs).1.map (.ended · (.ok ())) ∧
      opening sampleSettings t' = .ok (x.performAll (.ofEpoch 0) sampleJobs).2.1 := by
  obtain ⟨endings, kept, hprocesses, hwritten⟩ :=
    exists_processes_sampleFiles sampleJobs none (.ofEpoch 0)
  obtain ⟨x, hx, hendings, hlast⟩ := processes_do_what_one_service_does
    (catalogueIn_sampleFiles none) (by simp) rfl hprocesses hwritten
  exact ⟨endings, sampleFiles kept, x, hprocesses, hx, hendings, hlast⟩

end Service
end Deprecation
