/-
# Services that share one kept state

Several services may be open on one kept state: a watch that goes on for days, and a command
now and then.  Each works on the store that it took up when it opened, and keeping a store puts
it in the place of whatever was kept before.  Nothing is merged, and no service looks at the
kept state again.

So a review that was kept can be lost: a service that opened before, and knows nothing of the
review, keeps its own store afterwards.  This file shows that this is the only way, as long as
stores are kept one after the other.  From the time at which a reviewed rule was kept, the kept
state has its status for as long as every service that keeps its store has opened since or holds
the rule with that status itself.

Keeping a store is one event here.  It is carried out in several steps: the snapshot is written to
a file beside the kept state and then moved to its place.  Between these steps no other service
keeps its store, none opens, and nobody else changes the files.  The services do not see to that
themselves, for there is no lock and all of them write to the same file beside.  Two that keep
their stores at the same time may move what the other has written, or find nothing to move, and
of such runs this file says nothing.
-/
import Mathlib
import Deprecation.Proofs.Service.Processes
import Deprecation.Watch

namespace Deprecation

open FileTree

/-! ## What is recorded -/

/-- The status that a snapshot file records for a rule. -/
def FileTree.statusIn (t : FileTree) (path id : String) : Option Status :=
  match t.read path with
  | .error _ => none
  | .ok bytes =>
    match Snapshot.decode bytes with
    | .error _ => none
    | .ok x => (x.contents.mined.find? (·.id == id)).map MinedRule.status

/-- A kept store is recorded with the statuses of its rules. -/
lemma FileTree.statusIn_of_read {t : FileTree} {path : String} {store : Store}
    (hstore : store.Coherent) (hread : t.read path = .ok store.persist) (id : String) :
    t.statusIn path id = (store.mined.find? id).map MinedRule.status := by
  have hown := hstore.consistent.mined_own
  have hnodup : (store.mined.values.map MinedRule.id).Nodup :=
    List.pairwise_map.mpr (hown.pairwise_values.imp fun hlt => String.ne_of_lt hlt)
  have hfind : store.mined.values.find? (·.id == id) = store.mined.find? id := by
    refine Option.ext fun r => ?_
    rw [Keyed.find?_eq_some_iff_of_nodup hnodup, hown.mem_values_iff]
    constructor
    · rintro ⟨hr, rfl⟩
      exact hr
    · intro hr
      have hid := hown id r hr
      exact ⟨by rw [hid, hr], hid⟩
  rw [statusIn, hread]
  dsimp only
  rw [Store.persist, Store.snapshot, Snapshot.decode_encode]
  -- an instant that is read as another one changes neither the id nor the status
  show ((store.mined.values.map MinedRule.asShown).find? (·.id == id)).map MinedRule.status = _
  rw [List.find?_map, Option.map_map]
  show (store.mined.values.find? (·.id == id)).map MinedRule.status = _
  rw [hfind]

namespace Service

/-! ## A site -/

/-- The files, and the services that have opened on them, in order. -/
structure Site where
  files : FileTree
  services : List Service

/-- What may happen at a site. -/
inductive Event where
  /-- A service opens, if it can. -/
  | opens
  /-- A service does a job. -/
  | works (k : Nat) (job : Job) (clock : Clock)
  /-- A service keeps its store.  This is one event from the first step to the last: while a
  service keeps its store, no other does, and nothing else happens to the files. -/
  | keeps (k : Nat)
  /-- Others change the files; they do not touch the kept state. -/
  | others (files : FileTree)

/-- The site after an event.  An event is over before the next one begins; in particular a store
has been kept, or could not be kept, before another one is. -/
def Site.after (s : Settings) (y : Site) : Event → Site
  | .opens =>
    match opening s y.files with
    | .ok x => { y with services := y.services ++ [x] }
    | .error _ => y
  | .works k job clock =>
    { y with services := y.services.modify k fun x => (x.perform clock job).2.1 }
  | .keeps k =>
    match y.services[k]? with
    | some x => { y with files := (outcome x.persist y.files).2 }
    | none => y
  | .others files =>
    if files.read s.storeFile = y.files.read s.storeFile then { y with files } else y

/-- The site after the first `n` events; in the beginning no service is open. -/
def siteAt (s : Settings) (files : FileTree) (events : List Event) (n : Nat) : Site :=
  (events.take n).foldl (Site.after s) ⟨files, []⟩

variable {s : Settings} {files : FileTree} {events : List Event} {y : Site} {x : Service}
  {k l n : Nat} {id : String} {status : Status}

@[simp] lemma siteAt_zero : siteAt s files events 0 = ⟨files, []⟩ := rfl

lemma siteAt_succ_of_some {event : Event} (h : events[n]? = some event) :
    siteAt s files events (n + 1) = (siteAt s files events n).after s event := by
  rw [siteAt, List.take_add_one, List.foldl_append, h]
  rfl

lemma siteAt_succ_of_none (h : events[n]? = none) :
    siteAt s files events (n + 1) = siteAt s files events n := by
  rw [siteAt, List.take_add_one, List.foldl_append, h]
  rfl

/-- What every event keeps holds at every time. -/
lemma siteAt_keeps {P : Site → Prop} (hstart : P ⟨files, []⟩)
    (hstep : ∀ y event, P y → P (y.after s event)) (n : Nat) : P (siteAt s files events n) := by
  induction n with
  | zero => exact hstart
  | succ n ih =>
    cases hevent : events[n]? with
    | none => rwa [siteAt_succ_of_none hevent]
    | some event =>
      rw [siteAt_succ_of_some hevent]
      exact hstep _ event ih

/-! ## One event -/

lemma files_after_keeps (s : Settings) (hx : y.services[k]? = some x) :
    (y.after s (.keeps k)).files = (outcome x.persist y.files).2 := by
  rw [Site.after, hx]

lemma services_after_keeps (s : Settings) (y : Site) (k : Nat) :
    (y.after s (.keeps k)).services = y.services := by
  rw [Site.after]
  split <;> rfl

lemma getElem?_after_works (s : Settings) (hx : y.services[k]? = some x) (job : Job)
    (clock : Clock) :
    (y.after s (.works k job clock)).services[k]? = some (x.perform clock job).2.1 := by
  show (y.services.modify k _)[k]? = _
  rw [List.getElem?_modify, hx]
  simp

/-- Services after an event: they are those that they were, or one of them has done a job, or
one has opened. -/
lemma services_after (s : Settings) (y : Site) (event : Event) :
    (y.after s event).services = y.services ∨
      (∃ k job clock, (y.after s event).services
        = y.services.modify k fun x => (x.perform clock job).2.1) ∨
      event = .opens ∧ ∃ x, opening s y.files = .ok x ∧
        (y.after s event).services = y.services ++ [x] := by
  cases event with
  | opens =>
    rw [Site.after]
    cases opening s y.files with
    | error e => exact Or.inl rfl
    | ok x => exact Or.inr (Or.inr ⟨rfl, x, rfl, rfl⟩)
  | works k job clock => exact Or.inr (Or.inl ⟨k, job, clock, rfl⟩)
  | keeps k => exact Or.inl (services_after_keeps s y k)
  | others files =>
    rw [Site.after]
    split <;> exact Or.inl rfl

/-- A service that is open stays open, and jobs are all that happens to it. -/
lemma getElem?_after_of_some {P : Service → Prop}
    (hperform : ∀ x clock job, P x → P (x.perform clock job).2.1)
    (h : ∃ x, y.services[k]? = some x ∧ P x) (event : Event) :
    ∃ x, (y.after s event).services[k]? = some x ∧ P x := by
  obtain ⟨x, hx, hP⟩ := h
  rcases services_after s y event with heq | ⟨l, job, clock, heq⟩ | ⟨-, x', -, heq⟩
  · exact ⟨x, heq ▸ hx, hP⟩
  · rw [heq, List.getElem?_modify, hx]
    by_cases hl : l = k
    · exact ⟨_, by simp [hl], hperform x clock job hP⟩
    · exact ⟨x, by simp [hl], hP⟩
  · refine ⟨x, ?_, hP⟩
    rw [heq, List.getElem?_append_left (List.getElem?_eq_some_iff.mp hx).1, hx]

/-- What jobs keep and every service that opens has, all services have. -/
lemma forall_services_after {P : Nat → Service → Prop}
    (hperform : ∀ k x clock job, P k x → P k (x.perform clock job).2.1)
    (hopens : ∀ x, opening s y.files = .ok x → P y.services.length x)
    (h : ∀ k x, y.services[k]? = some x → P k x) (event : Event) :
    ∀ k x, (y.after s event).services[k]? = some x → P k x := by
  intro k x hx
  rcases services_after s y event with heq | ⟨l, job, clock, heq⟩ | ⟨-, x', hopen, heq⟩
  · exact h k x (heq ▸ hx)
  · rw [heq, List.getElem?_modify] at hx
    obtain ⟨x', hx', hx⟩ := Option.map_eq_some_iff.mp hx
    by_cases hl : l = k
    · rw [if_pos hl] at hx
      exact hx ▸ hperform k x' clock job (h k x' hx')
    · rw [if_neg hl] at hx
      exact hx ▸ h k x' hx'
  · rw [heq, List.getElem?_append] at hx
    split at hx
    · exact h k x hx
    next hk =>
      -- the service that has opened comes last
      obtain ⟨hlt, hx⟩ := List.getElem?_eq_some_iff.mp hx
      rw [List.length_singleton] at hlt
      have hlast : k = y.services.length := by omega
      subst hlast
      simp only [Nat.sub_self, List.getElem_cons_zero] at hx
      exact hx ▸ hopens x' hopen

/-- The services of a site use the same settings, and their stores are coherent. -/
def Site.Proper (s : Settings) (y : Site) : Prop :=
  ∀ (k : Nat) (x : Service), y.services[k]? = some x → x.settings = s ∧ x.store.Coherent

lemma proper_siteAt (n : Nat) : (siteAt s files events n).Proper s := by
  refine siteAt_keeps ?_ ?_ n
  · intro k x hx
    cases hx
  · intro y event hy
    refine forall_services_after ?_ ?_ hy event
    · intro k x clock job hx
      exact ⟨(settings_perform x clock job).trans hx.1, coherent_perform hx.2 clock job⟩
    · intro x hopen
      exact ⟨(opening_eq_ok_iff.mp hopen).1, (opening_keeps_mined hopen).1⟩

/-- After a service has kept its store, the kept state is that store. -/
lemma read_after_keeps (hproper : y.Proper s) (hx : y.services[k]? = some x)
    (hok : (outcome x.persist y.files).1 = .ok ()) :
    (y.after s (.keeps k)).files.read s.storeFile = .ok x.store.persist := by
  have hread := read_of_persist_ok hok
  rw [(hproper k x hx).1] at hread
  rw [files_after_keeps s hx, hread]

/-- What is kept after an event: what was kept before, unless a service has kept its store. -/
lemma read_after (hproper : y.Proper s) {old : ByteArray}
    (hread : y.files.read s.storeFile = .ok old) (event : Event) :
    (y.after s event).files.read s.storeFile = .ok old ∨
      ∃ k x, event = .keeps k ∧ y.services[k]? = some x ∧
        (outcome x.persist y.files).1 = .ok () := by
  cases event with
  | opens =>
    left
    rw [Site.after]
    split <;> exact hread
  | works k job clock => exact Or.inl hread
  | others files =>
    left
    rw [Site.after]
    split
    next hsame => exact hsame.trans hread
    next => exact hread
  | keeps k =>
    cases hx : y.services[k]? with
    | none =>
      left
      rw [Site.after, hx]
      exact hread
    | some x =>
      cases hkept : (outcome x.persist y.files).1 with
      | ok u => exact Or.inr ⟨k, x, rfl, hx, hkept⟩
      | error e =>
        left
        rw [← (hproper k x hx).1] at hread
        have hold := read_of_persist_error hkept hread
        rw [(hproper k x hx).1] at hold
        rw [files_after_keeps s hx, hold]

/-! ## A watch -/

/-- A watch that takes in a release does a job and then keeps its store. -/
theorem takeIn_works_and_keeps {w : Watch} (hw : y.services[k]? = some w.service) {path : String}
    (hunseen : path ∉ w.seen) {text : String} (htext : y.files.textAt path = .ok text)
    (version : String) (clock : Clock) :
    (w.takeIn clock version path : StateM FileTree _) y.files =
      (((w.service.ingest text version clock).1.shown,
        ⟨(w.service.ingest text version clock).2.1, path :: w.seen⟩,
        (w.service.ingest text version clock).2.2),
        ((y.after s (.works k (.ingest text version) clock)).after s (.keeps k)).files) ∧
    ((y.after s (.works k (.ingest text version) clock)).after s (.keeps k)).services[k]?
      = some (w.service.ingest text version clock).2.1 := by
  have hread : (Disk.readText path : ExceptT FileError (StateM FileTree) String).run y.files
      = (.ok text, y.files) := by
    rw [← htext]
    exact outcome_readText y.files path
  have hworks : (y.after s (.works k (.ingest text version) clock)).services[k]?
      = some (w.service.ingest text version clock).2.1 :=
    getElem?_after_works s hw (.ingest text version) clock
  have hfiles : (y.after s (.works k (.ingest text version) clock)).files = y.files := rfl
  rw [files_after_keeps s hworks, services_after_keeps, hfiles]
  refine ⟨?_, hworks⟩
  rw [Watch.takeIn, if_neg hunseen, bind_apply, hread]
  dsimp only
  rw [bind_apply]
  rfl

/-! ## A review that was kept -/

/-- The status of a rule is recorded, and every service from some number on holds the rule with
that status. -/
structure Records (s : Settings) (id : String) (status : Status) (bound : Nat) (y : Site) :
    Prop where
  kept : ∃ store : Store, store.Coherent ∧ y.files.read s.storeFile = .ok store.persist ∧
    ∃ r, store.mined.find? id = some r ∧ r.status = status
  later : ∀ k x, y.services[k]? = some x → bound ≤ k → x.HoldsReviewed id status

lemma Records.statusIn {bound : Nat} (h : Records s id status bound y) :
    y.files.statusIn s.storeFile id = some status := by
  obtain ⟨store, hstore, hread, r, hr, hstatus⟩ := h.kept
  rw [statusIn_of_read hstore hread, hr, Option.map_some, hstatus]

/-- A service that opens on a kept store holds its rules. -/
lemma holdsReviewed_of_opening {store : Store} (hstore : store.Coherent) {t : FileTree}
    (hread : t.read s.storeFile = .ok store.persist) (hfinal : status ≠ .draft) {r : MinedRule}
    (hr : store.mined.find? id = some r) (hstatus : r.status = status)
    (hopen : opening s t = .ok x) : x.HoldsReviewed id status := by
  obtain ⟨-, store', hkept, hmined⟩ := opening_keeps_mined hopen
  obtain ⟨back, hrestore, hback⟩ := hstore.exists_restore_persist .empty
  rw [keptIn, snapshotAt, hread, hrestore] at hkept
  cases hkept
  refine ⟨hfinal, r.asShown, ?_, hstatus⟩
  rw [hmined, hback.find?_mined hstore, hr, Option.map_some]

/-- One event: the status stays recorded unless a service keeps a store without it. -/
theorem Records.after {bound : Nat} (h : Records s id status bound y) (hproper : y.Proper s)
    (hfinal : status ≠ .draft) (event : Event)
    (hkeeps : ∀ k x, event = .keeps k → y.services[k]? = some x →
      (outcome x.persist y.files).1 = .ok () → bound ≤ k ∨ x.HoldsReviewed id status) :
    Records s id status bound (y.after s event) := by
  obtain ⟨store, hstore, hread, r, hr, hstatus⟩ := h.kept
  refine ⟨?_, ?_⟩
  · rcases read_after hproper hread event with hold | ⟨k, x, rfl, hx, hok⟩
    · exact ⟨store, hstore, hold, r, hr, hstatus⟩
    · have hholds : x.HoldsReviewed id status :=
        (hkeeps k x rfl hx hok).elim (h.later k x hx) fun hx => hx
      obtain ⟨-, r', hr', hstatus'⟩ := hholds
      exact ⟨x.store, (hproper k x hx).2, read_after_keeps hproper hx hok, r', hr', hstatus'⟩
  · refine forall_services_after ?_ ?_ h.later event
    · intro k x clock job hx hk
      exact (hx hk).perform clock job
    · intro x hopen _
      exact holdsReviewed_of_opening hstore hread hfinal hr hstatus hopen

/-- A service does a review that is accepted. -/
def AcceptsAt (s : Settings) (files : FileTree) (events : List Event) (n k : Nat) (id : String)
    (d : Decision) : Prop :=
  ∃ clock x r, events[n]? = some (.works k (.review id d) clock) ∧
    (siteAt s files events n).services[k]? = some x ∧
    (x.perform clock (.review id d)).1 = .reviewed r

/-- A service keeps its store, and succeeds. -/
def KeepsAt (s : Settings) (files : FileTree) (events : List Event) (n k : Nat) (x : Service) :
    Prop :=
  events[n]? = some (.keeps k) ∧ (siteAt s files events n).services[k]? = some x ∧
    (outcome x.persist (siteAt s files events n).files).1 = .ok ()

/-- The service goes on holding what it has accepted. -/
lemma AcceptsAt.holdsReviewed {h i : Nat} {d : Decision}
    (haccepts : AcceptsAt s files events h k id d) (hhi : h < i) :
    ∃ x, (siteAt s files events i).services[k]? = some x ∧ x.HoldsReviewed id d.status := by
  induction i, hhi using Nat.le_induction with
  | base =>
    obtain ⟨clock, x, r, hevent, hx, hreviewed⟩ := haccepts
    obtain ⟨r', hr', hstatus, hfinal⟩ := status_of_reviewed hreviewed
    refine ⟨(x.perform clock (.review id d)).2.1, ?_, hfinal, r', hr', hstatus⟩
    rw [Nat.succ_eq_add_one, siteAt_succ_of_some hevent, getElem?_after_works s hx]
  | succ i _ ih =>
    cases hevent : events[i]? with
    | none => rwa [siteAt_succ_of_none hevent]
    | some event =>
      rw [siteAt_succ_of_some hevent]
      exact getElem?_after_of_some (fun x clock job hx => hx.perform clock job) ih event

lemma KeepsAt.read (h : KeepsAt s files events n k x) :
    (siteAt s files events (n + 1)).files.read s.storeFile = .ok x.store.persist := by
  rw [siteAt_succ_of_some h.1]
  exact read_after_keeps (proper_siteAt n) h.2.1 h.2.2

lemma KeepsAt.services (h : KeepsAt s files events n k x) :
    (siteAt s files events (n + 1)).services = (siteAt s files events n).services := by
  rw [siteAt_succ_of_some h.1, services_after_keeps]

/-- **A review stays recorded for as long as nobody keeps a store that lacks it.**  Services that
share a kept state keep their stores one after the other, never two at the same time.  One of them
has accepted a review and then kept its store.  From then on the kept state has the status that
was decided on, up to any later time, if and only if every service that keeps its store before
that time has opened since, or holds the rule with that status itself. -/
theorem review_stays_recorded_iff {h i j : Nat} {d : Decision}
    (haccepts : AcceptsAt s files events h k id d) (hhi : h < i)
    (hkeeps : KeepsAt s files events i k x) :
    (∀ n, i < n → n ≤ j →
      (siteAt s files events n).files.statusIn s.storeFile id = some d.status) ↔
    ∀ n l x', i < n → n < j → KeepsAt s files events n l x' →
      (siteAt s files events i).services.length ≤ l ∨ x'.HoldsReviewed id d.status := by
  obtain ⟨x'', hx'', hholds⟩ := haccepts.holdsReviewed hhi
  obtain rfl : x = x'' := Option.some.inj (hkeeps.2.1.symm.trans hx'')
  obtain ⟨hfinal, r, hr, hstatus⟩ := hholds
  constructor
  · intro hrecorded n l x' hin hnj hkeeps'
    right
    have hread := hkeeps'.read
    have hcoherent := (proper_siteAt n l x' hkeeps'.2.1).2
    have hstatus' := hrecorded (n + 1) (by omega) hnj
    rw [statusIn_of_read hcoherent hread] at hstatus'
    obtain ⟨r', hr', hr'status⟩ := Option.map_eq_some_iff.mp hstatus'
    exact ⟨hfinal, r', hr', hr'status⟩
  · intro hkept n hin hnj
    suffices hrecords : Records s id d.status (siteAt s files events i).services.length
        (siteAt s files events n) from hrecords.statusIn
    induction n, hin using Nat.le_induction with
    | base =>
      refine ⟨⟨x.store, (proper_siteAt i k x hkeeps.2.1).2, hkeeps.read, r, hr, hstatus⟩, ?_⟩
      intro l x' hx' hl
      rw [Nat.succ_eq_add_one, hkeeps.services, List.getElem?_eq_none hl] at hx'
      cases hx'
    | succ n hin ih =>
      have hrecords := ih (by omega)
      cases hevent : events[n]? with
      | none => rwa [siteAt_succ_of_none hevent]
      | some event =>
        rw [siteAt_succ_of_some hevent]
        refine hrecords.after (proper_siteAt n) hfinal event fun l x' heq hx' hok => ?_
        exact hkept n l x' hin (by omega) ⟨heq ▸ hevent, hx', hok⟩

/-! ## A review that is lost -/

/-- A draft was mined and kept. -/
def draftStore : Store := Store.empty.after (.submit Store.sampleDraft)

def draftFiles : FileTree := sampleFiles (some draftStore.persist)

/-- A watch opens, and then a command that approves the draft and keeps its store.  The watch
takes in a release without deprecations and keeps its own store. -/
def sharedRun : List Event :=
  [.opens, .opens, .works 1 (.review "auto-a-1.0" .approved) (.ofEpoch 0), .keeps 1,
    .works 0 (.ingest "" "2.0") (.ofEpoch 0), .keeps 0]

/-- The watch all along, and the command before its review. -/
def watcher : Service := ⟨sampleSettings, draftStore⟩

/-- The command after its review. -/
def reviewer : Service := (watcher.perform (.ofEpoch 0) (.review "auto-a-1.0" .approved)).2.1

lemma coherent_draftStore : draftStore.Coherent := Store.coherent_empty.after _

lemma find?_draftStore : draftStore.mined.find? "auto-a-1.0" = some Store.sampleDraft :=
  Store.find?_sampleDraft

lemma standsOn_draftStore : StandsOn draftStore ⟨[], []⟩ := by
  obtain ⟨hstatics, hentries⟩ := Store.statics_entries_submit Store.empty Store.sampleDraft
  exact ⟨coherent_draftStore, hstatics, hentries⟩

lemma onClock_draftStore : draftStore.contents.OnClock :=
  Store.onClock_submit Store.empty Store.sampleDraft (by decide) Store.onClock_empty

lemma opening_draftFiles : opening sampleSettings draftFiles = .ok watcher :=
  opening_of_kept (catalogueIn_sampleFiles _) rfl standsOn_draftStore onClock_draftStore rfl

lemma review_watcher :
    ∃ r, (watcher.perform (.ofEpoch 0) (.review "auto-a-1.0" .approved)).1 = .reviewed r := by
  have hset : watcher.store.setStatus "auto-a-1.0" Decision.approved.status = .ok _ :=
    Store.setStatus_eq_ok_iff.mpr
      ⟨Store.sampleDraft, find?_draftStore, rfl, by decide, rfl, rfl⟩
  exact ⟨_, by rw [perform_review_of_ok hset]⟩

/-- A release without deprecations changes nothing. -/
lemma ingest_watcher (clock : Clock) :
    (watcher.perform clock (.ingest "" "2.0")).2.1 = watcher := by
  have hrecords : Changelog.records "" "2.0" = [] := by cbv
  have hstore : (draftStore.ingest watcher.settings.synthesizer "" "2.0" clock).2.1
      = draftStore := by
    rw [Store.ingest, Ingest.cycle_store]
    show (Ingest.pass _ _ (Changelog.records "" "2.0" ++ [])).store = draftStore
    rw [hrecords]
    rfl
  show (⟨sampleSettings, (draftStore.ingest watcher.settings.synthesizer "" "2.0" clock).2.1⟩ :
    Service) = watcher
  rw [hstore]
  rfl

lemma settings_reviewer : reviewer.settings = sampleSettings := settings_perform _ _ _

lemma outcome_persist_sample (kept : Option ByteArray) (hx : x.settings = sampleSettings) :
    outcome x.persist (sampleFiles kept) = (.ok (), sampleFiles (some x.store.persist)) := by
  rw [outcome_persist, hx, save_sampleFiles]
  rfl

lemma siteAt_sharedRun_two :
    siteAt sampleSettings draftFiles sharedRun 2 = ⟨draftFiles, [watcher, watcher]⟩ := by
  have hone : siteAt sampleSettings draftFiles sharedRun 1 = ⟨draftFiles, [watcher]⟩ := by
    rw [siteAt_succ_of_some (n := 0) rfl, siteAt_zero, Site.after, opening_draftFiles]
    rfl
  rw [siteAt_succ_of_some (n := 1) rfl, hone, Site.after, opening_draftFiles]
  rfl

lemma siteAt_sharedRun_three :
    siteAt sampleSettings draftFiles sharedRun 3 = ⟨draftFiles, [watcher, reviewer]⟩ := by
  rw [siteAt_succ_of_some (n := 2) rfl, siteAt_sharedRun_two]
  rfl

lemma siteAt_sharedRun_four :
    siteAt sampleSettings draftFiles sharedRun 4
      = ⟨sampleFiles (some reviewer.store.persist), [watcher, reviewer]⟩ := by
  rw [siteAt_succ_of_some (n := 3) rfl, siteAt_sharedRun_three]
  show (⟨(outcome reviewer.persist (sampleFiles (some draftStore.persist))).2, _⟩ : Site) = _
  rw [outcome_persist_sample _ settings_reviewer]

lemma siteAt_sharedRun_five :
    siteAt sampleSettings draftFiles sharedRun 5
      = ⟨sampleFiles (some reviewer.store.persist), [watcher, reviewer]⟩ := by
  rw [siteAt_succ_of_some (n := 4) rfl, siteAt_sharedRun_four]
  show (⟨_, [(watcher.perform (.ofEpoch 0) (.ingest "" "2.0")).2.1, reviewer]⟩ : Site) = _
  rw [ingest_watcher]

lemma acceptsAt_sharedRun :
    AcceptsAt sampleSettings draftFiles sharedRun 2 1 "auto-a-1.0" .approved := by
  obtain ⟨r, hr⟩ := review_watcher
  exact ⟨.ofEpoch 0, watcher, r, rfl, by rw [siteAt_sharedRun_two]; rfl, hr⟩

lemma keepsAt_sharedRun : KeepsAt sampleSettings draftFiles sharedRun 3 1 reviewer := by
  rw [KeepsAt, siteAt_sharedRun_three]
  refine ⟨rfl, rfl, ?_⟩
  show (outcome reviewer.persist (sampleFiles (some draftStore.persist))).1 = .ok ()
  rw [outcome_persist_sample _ settings_reviewer]

lemma keepsAt_sharedRun_watcher : KeepsAt sampleSettings draftFiles sharedRun 5 0 watcher := by
  rw [KeepsAt, siteAt_sharedRun_five]
  refine ⟨rfl, rfl, ?_⟩
  rw [outcome_persist_sample _ rfl]

/-- Before the watch keeps its store, the approval stays recorded. -/
theorem sharedRun_records_review :
    AcceptsAt sampleSettings draftFiles sharedRun 2 1 "auto-a-1.0" .approved ∧
    KeepsAt sampleSettings draftFiles sharedRun 3 1 reviewer ∧
    ∀ n, 3 < n → n ≤ 5 → (siteAt sampleSettings draftFiles sharedRun n).files.statusIn
      sampleSettings.storeFile "auto-a-1.0" = some .approved := by
  refine ⟨acceptsAt_sharedRun, keepsAt_sharedRun, ?_⟩
  refine (review_stays_recorded_iff acceptsAt_sharedRun (by decide) keepsAt_sharedRun).mpr ?_
  rintro n l x' hn hn' ⟨hevent, -⟩
  obtain rfl : n = 4 := by omega
  cases hevent

/-- The command has kept an approved rule, and in the end the kept state has a draft. -/
theorem sharedRun_loses_review :
    AcceptsAt sampleSettings draftFiles sharedRun 2 1 "auto-a-1.0" .approved ∧
    KeepsAt sampleSettings draftFiles sharedRun 3 1 reviewer ∧
    (siteAt sampleSettings draftFiles sharedRun 6).files.statusIn
      sampleSettings.storeFile "auto-a-1.0" = some .draft := by
  refine ⟨acceptsAt_sharedRun, keepsAt_sharedRun, ?_⟩
  have hread : (siteAt sampleSettings draftFiles sharedRun 6).files.read sampleSettings.storeFile
      = .ok draftStore.persist := keepsAt_sharedRun_watcher.read
  rw [statusIn_of_read coherent_draftStore hread, find?_draftStore]
  rfl

end Service

end Deprecation
