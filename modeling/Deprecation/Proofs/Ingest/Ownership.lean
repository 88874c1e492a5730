/-
# Whether a fact gets its id back

A fact that asks for an id gets the first candidate that is free or its own.  So it gets back
the id it has if no candidate before that one is free.  When the id was given out they were
all held by others.  Mined rules never give an id up, but static rules do: loading a catalogue
may free an id that stands before the one of a mined rule.  The next ingestion then makes a
second rule of the same fact under the freed id.

This file finds the exact condition.  In the runs of a service that starts with nothing, facts
get their ids back and no two rules share a fact just when no load gives up a static id that
stands before the id of a mined rule; a run in which one does shows that the condition can fail.
-/
import Mathlib
import Deprecation.Proofs.Ingest.Repeat

namespace Deprecation
namespace Store

/-- What a service does to its store by itself: it loads catalogues, adds entries, ingests and
reviews.  Rules and snapshots from outside are left out. -/
def Op.isRoutine : Op → Bool
  | .load _ _ | .addEntries _ | .setStatus _ _ | .ingest _ _ _ _ | .ingestDocument _ _ _ => true
  | .submit _ | .restore _ => false

/-- A record states the fact that a mined rule is about, for the same release. -/
def States (x : Record) (r : MinedRule) : Prop :=
  Text.trimmed x.token = r.token ∧ x.category = r.category ∧ Text.trimmed x.release = r.release

/-- A synthesizer could make a rule of a record under an id, if no other rule were in its way. -/
def CanGive (z : Synthesizer) (x : Record) (id : String) : Prop :=
  z.fault x = none ∧ id ∈ z.registry.candidates x.base

/-- The fact of a rule gets the rule's id back: when a cycle that starts from the store comes to
a record that states the fact, whatever records it has met before, it makes a rule of it under
this id. -/
def Returns (s : Store) (r : MinedRule) : Prop :=
  ∀ z clock before x, States x r → CanGive z x r.id →
    ∃ rule g, z.synthesize (Ingest.pass z (Ingest.start z s clock) before).registry
        (Ingest.pass z (Ingest.start z s clock) before).clock.now x = .ok (rule, g) ∧
      rule.id = r.id

/-- No two mined rules are about the same token, category and release. -/
def Distinct (s : Store) : Prop :=
  ∀ r ∈ s.mined.values, ∀ r' ∈ s.mined.values,
    r.token = r'.token → r.category = r'.category → r.release = r'.release → r = r'

/-- No operation of a run takes a static id away that stands before the id of a rule, among the
candidates of a fact that has been mined by then. -/
def Steady (ops : List Op) : Prop :=
  ∀ i j, j ≤ i → ∀ r ∈ (storeAt ops j).mined.values, ∀ m n, m < n →
    Registry.candidate r.base n = r.id →
    (storeAt ops i).isStatic (Registry.candidate r.base m) = true →
    (storeAt ops (i + 1)).isStatic (Registry.candidate r.base m) = true

/-- All candidates before the id of a rule are held by others. -/
def Shielded (s : Store) (r : MinedRule) : Prop :=
  ∃ n, Registry.candidate r.base n = r.id ∧
    ∀ m < n, ∃ h, s.holder (Registry.candidate r.base m) = some h ∧ h ≠ r.fact

/-- A rule that some synthesizer has made. -/
def Made (r : MinedRule) : Prop :=
  ∃ z x, States x r ∧ CanGive z x r.id

variable {s t : Store} {r : MinedRule} {x : Record} {z : Synthesizer} {id : String}

lemma States.fact_eq (h : States x r) : x.fact = r.fact := by
  obtain ⟨htoken, hcategory, -⟩ := h
  rw [Record.fact, MinedRule.fact, htoken, hcategory]

lemma States.base_eq (h : States x r) : x.base = r.base := by
  obtain ⟨htoken, -, hrelease⟩ := h
  rw [Record.base, MinedRule.base, htoken, hrelease]

lemma holder_eq_reserved_iff : s.holder id = some .reserved ↔ s.isStatic id = true := by
  constructor
  · intro h
    by_contra hid
    rw [holder_of_not_static (by simpa using hid)] at h
    obtain ⟨r, -, hr⟩ := Option.map_eq_some_iff.mp h
    cases hr
  · exact holder_of_static

/-! ## One store -/

lemma Shielded.keep (h : s.Shielded r) (hst : s.KeepsHolders t) : t.Shielded r := by
  obtain ⟨n, hn, hbefore⟩ := h
  refine ⟨n, hn, fun m hm => ?_⟩
  obtain ⟨h', hh', hne⟩ := hbefore m hm
  exact ⟨h', hst _ _ hh', hne⟩

/-- An id that is offered to a record is the first that others do not hold. -/
lemma offer_eq_ok_iff (hs : s.Consistent) (hx : States x r) (hgive : CanGive z x r.id) :
    z.offer (Ingest.registryOf z s) x = .ok r.id ↔
      s.Shielded r ∧ (s.holder r.id = none ∨ s.holder r.id = some r.fact) := by
  obtain ⟨hfault, hcandidate⟩ := hgive
  rw [Synthesizer.offer_eq_ok_iff, Registry.choose_eq_some_iff, Registry.admits_iff,
    Ingest.holder_registryOf z hs, hx.fact_eq, hx.base_eq]
  have hbefore : ∀ m, (Ingest.registryOf z s).admits r.fact (Registry.candidate r.base m) = false ↔
      ∃ h, s.holder (Registry.candidate r.base m) = some h ∧ h ≠ r.fact := by
    intro m
    rw [Registry.admits_eq_false_iff, Ingest.holder_registryOf z hs]
  simp only [hbefore, Ingest.maxSuffix_registryOf]
  constructor
  · rintro ⟨-, n, -, hn, hholder, hless⟩
    exact ⟨⟨n, hn, hless⟩, hholder⟩
  · rintro ⟨⟨n, hn, hless⟩, hholder⟩
    obtain ⟨n', hle, hn'⟩ := Registry.mem_candidates_iff.mp hcandidate
    rw [hx.base_eq, ← hn] at hn'
    cases Registry.candidate_injective hn'
    exact ⟨hfault, n, hle, hn, hholder, hless⟩

/-- A fact gets back an id that it holds if others hold all candidates before it. -/
lemma returns_of_shielded (hs : s.Coherent) (hshield : s.Shielded r)
    (hown : s.holder r.id = some r.fact) : s.Returns r := by
  intro z clock before x hx hgive
  obtain ⟨t, ht, hst, hpass⟩ := Ingest.pass_start (z := z) (P := s.KeepsHolders)
    (fun t x id now ht hst hoffer =>
      hst.trans (Ingest.keepsHolders_after_draft ht.consistent hoffer now))
    hs (.refl s) clock before
  have hoffer : z.offer (Ingest.registryOf z t) x = .ok r.id :=
    (offer_eq_ok_iff ht.consistent hx hgive).mpr
      ⟨hshield.keep hst, Or.inr (hst _ _ hown)⟩
  rw [hpass]
  exact ⟨_, _, Synthesizer.synthesize_eq_ok_iff.mpr ⟨r.id, hoffer, rfl, rfl⟩, rfl⟩

lemma shielded_of_returns (hs : s.Coherent) (hmade : Made r) (h : s.Returns r) :
    s.Shielded r := by
  obtain ⟨z, x, hx, hgive⟩ := hmade
  obtain ⟨rule, g, hrule, hid⟩ := h z (.ofEpoch 0) [] x hx hgive
  obtain ⟨id, hoffer, rfl, -⟩ := Synthesizer.synthesize_eq_ok_iff.mp hrule
  rw [Synthesizer.id_draft] at hid
  rw [hid] at hoffer
  exact ((offer_eq_ok_iff hs.consistent hx hgive).mp hoffer).1

/-! ## One operation -/

lemma canGive_of_offer (hoffer : z.offer (Ingest.registryOf z s) x = .ok id) : CanGive z x id := by
  obtain ⟨hfault, hchoose⟩ := Synthesizer.offer_eq_ok_iff.mp hoffer
  obtain ⟨n, hn, hcandidate, -, -⟩ := Registry.choose_eq_some_iff.mp hchoose
  rw [Ingest.maxSuffix_registryOf] at hn
  exact ⟨hfault, Registry.mem_candidates_iff.mpr ⟨n, hn, hcandidate⟩⟩

/-- What a routine operation leaves: a rule was there before and has at most been reviewed, or
it is new and shielded; and no id changes hands, but a static one may become free. -/
structure Follows (s t : Store) : Prop where
  rules : ∀ id r, t.mined.find? id = some r →
    (∃ old status, s.mined.find? id = some old ∧ r = { old with status }) ∨ (Made r ∧ t.Shielded r)
  holders : ∀ id h, s.holder id = some h →
    t.holder id = some h ∨ (h = .reserved ∧ t.holder id = none)

lemma Follows.refl (s : Store) : Follows s s where
  rules := fun _ r hr => Or.inl ⟨r, r.status, hr, rfl⟩
  holders := fun _ _ h => Or.inl h

lemma follows_load (hs : s.Coherent) (rules : List StaticRule) (entries : List Entry) :
    Follows s (s.after (.load rules entries)) := by
  have ht := hs.after (.load rules entries)
  have hmined := s.mined_after_load rules entries
  refine ⟨fun id r hr => Or.inl ⟨r, r.status, hmined ▸ hr, rfl⟩, ?_⟩
  intro id h hid
  -- a mined rule keeps its id; a static one may have gone, and then nobody holds the id
  cases hstatic : s.isStatic id with
  | false =>
    rw [holder_of_not_static hstatic, ← hmined] at hid
    obtain ⟨r, hr, rfl⟩ := Option.map_eq_some_iff.mp hid
    exact Or.inl (ht.consistent.holder_of_mined hr)
  | true =>
    rw [holder_of_static hstatic] at hid
    cases hid
    cases hstatic' : (s.after (.load rules entries)).isStatic id with
    | true => exact Or.inl (holder_of_static hstatic')
    | false =>
      obtain ⟨r, hr, rfl⟩ := isStatic_iff.mp hstatic
      right
      rw [holder_of_not_static hstatic', hmined, hs.consistent.apart r hr]
      exact ⟨rfl, rfl⟩

lemma follows_setStatus (hs : s.Consistent) (id : String) (status : Status) :
    Follows s (s.after (.setStatus id status)) := by
  have hkeeps := (Ingest.carries_upkeep hs (.setStatus id status) rfl .reserved).holders
  refine ⟨?_, fun id' h hid' => Or.inl (hkeeps id' h hid')⟩
  intro id' r hr
  left
  rcases s.after_setStatus_cases id status with heq | ⟨old, hold, -, -, hmined⟩
  · rw [heq] at hr
    exact ⟨r, r.status, hr, rfl⟩
  · rw [hmined, Keyed.find?_insert] at hr
    split at hr
    · next hid =>
      cases hr
      exact ⟨old, status, hid ▸ hold, rfl⟩
    · exact ⟨r, r.status, hr, rfl⟩

lemma rules_after_draft (hs : s.Consistent) (hoffer : z.offer (Ingest.registryOf z s) x = .ok id)
    (now : Instant) {id' : String}
    (hr : (s.after (.submit (z.draft id now x))).mined.find? id' = some r) :
    s.mined.find? id' = some r ∨ r = z.draft id now x := by
  obtain ⟨-, hput | ⟨hmined, -⟩⟩ := Ingest.mined_after_draft hs hoffer now
  · rw [hput, Keyed.find?_insert] at hr
    split at hr
    · exact Or.inr (Option.some.inj hr).symm
    · exact Or.inl hr
  · rw [hmined] at hr
    exact Or.inl hr

/-- In a cycle every new rule is shielded from the start, and no id becomes free. -/
lemma follows_cycle (hs : s.Coherent) (z : Synthesizer) (releases : List Ingest.Release)
    (clock : Clock) : Follows s (Ingest.cycle z releases s clock).2.1 := by
  have hcycle := Ingest.keeps_cycle (z := z)
    (P := fun t => s.KeepsHolders t ∧ ∀ id r, t.mined.find? id = some r →
      s.mined.find? id = some r ∨ (Made r ∧ t.Shielded r))
    ?_ hs ⟨.refl s, fun _ _ hr => Or.inl hr⟩ releases clock
  · refine ⟨fun id r hr => ?_, fun id h hid => Or.inl (hcycle.1 id h hid)⟩
    rcases hcycle.2 id r hr with hr | hnew
    · exact Or.inl ⟨r, r.status, hr, rfl⟩
    · exact Or.inr hnew
  · rintro t x id now ht ⟨hst, hrules⟩ hoffer
    have hkeeps := Ingest.keepsHolders_after_draft ht.consistent hoffer now
    refine ⟨hst.trans hkeeps, fun id' r hr => ?_⟩
    rcases rules_after_draft ht.consistent hoffer now hr with hr | rfl
    · rcases hrules id' r hr with hold | ⟨hmade, hshield⟩
      · exact Or.inl hold
      · exact Or.inr ⟨hmade, hshield.keep hkeeps⟩
    · have hgive : CanGive z x id := canGive_of_offer hoffer
      have hstates : States x (z.draft id now x) := ⟨rfl, rfl, rfl⟩
      have hshield := ((offer_eq_ok_iff ht.consistent hstates hgive).mp hoffer).1
      exact Or.inr ⟨⟨z, x, hstates, hgive⟩, hshield.keep hkeeps⟩

theorem follows_after (hs : s.Coherent) {op : Op} (hop : op.isRoutine = true) :
    Follows s (s.after op) := by
  cases op with
  | load rules entries => exact follows_load hs rules entries
  | addEntries entries =>
    have hkeeps := (Ingest.carries_upkeep hs.consistent (.addEntries entries) rfl .reserved).holders
    refine ⟨fun id r hr => Or.inl ⟨r, r.status, ?_, rfl⟩, fun id h hid => Or.inl (hkeeps id h hid)⟩
    rwa [after_addEntries, mined_addEntries] at hr
  | setStatus id status => exact follows_setStatus hs.consistent id status
  | ingest z text version clock => exact follows_cycle hs z _ clock
  | ingestDocument z text clock => exact follows_cycle hs z _ clock
  | submit r => cases hop
  | restore held => cases hop

/-! ## A run -/

section Run

variable {ops : List Op} (hops : ∀ op ∈ ops, op.isRoutine = true)

include hops

lemma follows_storeAt (n : Nat) : Follows (storeAt ops n) (storeAt ops (n + 1)) := by
  cases hop : ops[n]? with
  | none =>
    rw [storeAt_succ_of_none hop]
    exact .refl _
  | some op =>
    rw [storeAt_succ_of_some hop]
    exact follows_after (coherent_storeAt ops n) (hops op (List.mem_of_getElem? hop))

/-- The fact of a mined rule holds the rule's id from then on. -/
lemma holder_later {i j : Nat} (hji : j ≤ i) (hr : r ∈ (storeAt ops j).mined.values) :
    (storeAt ops i).holder r.id = some r.fact := by
  have hcoherent := coherent_storeAt ops j
  induction i, hji using Nat.le_induction with
  | base =>
    rw [hcoherent.consistent.mined_own.mem_values_iff] at hr
    exact hcoherent.consistent.holder_of_mined hr
  | succ i _ ih =>
    rcases (follows_storeAt hops i).holders _ _ ih with h | ⟨h, -⟩
    · exact h
    · cases h

/-- Every rule of a run has been made by a synthesizer. -/
lemma made_storeAt {i : Nat} (hr : r ∈ (storeAt ops i).mined.values) : Made r := by
  obtain ⟨id, hid⟩ := Keyed.mem_values_iff.mp hr
  clear hr
  induction i generalizing r with
  | zero => cases hid
  | succ i ih =>
    rcases (follows_storeAt hops i).rules id r hid with ⟨old, status, hold, rfl⟩ | ⟨hmade, -⟩
    · have hold' : Made old := ih hold
      exact hold'
    · exact hmade

/-- In a steady run a rule that is shielded stays so. -/
lemma Shielded.succ (hsteady : Steady ops) {i j : Nat} (hji : j ≤ i)
    (hr : r ∈ (storeAt ops j).mined.values) (h : (storeAt ops i).Shielded r) :
    (storeAt ops (i + 1)).Shielded r := by
  obtain ⟨n, hn, hbefore⟩ := h
  refine ⟨n, hn, fun m hm => ?_⟩
  obtain ⟨h', hh', hne⟩ := hbefore m hm
  rcases (follows_storeAt hops i).holders _ _ hh' with hkept | ⟨rfl, hfree⟩
  · exact ⟨h', hkept, hne⟩
  -- a candidate that became free was static, and a steady run does not let it go
  · have hstatic := hsteady i j hji r hr m n hm hn (holder_eq_reserved_iff.mp hh')
    rw [holder_of_static hstatic] at hfree
    cases hfree

/-- In a steady run every rule is shielded from the time when it is made. -/
lemma shielded_storeAt (hsteady : Steady ops) {j : Nat} (hr : r ∈ (storeAt ops j).mined.values) :
    (storeAt ops j).Shielded r := by
  obtain ⟨id, hid⟩ := Keyed.mem_values_iff.mp hr
  clear hr
  induction j generalizing r with
  | zero => cases hid
  | succ j ih =>
    -- the rule was there one step before, shielded by induction, or it is new
    rcases (follows_storeAt hops j).rules id r hid with ⟨old, status, hold, rfl⟩ | ⟨-, hshield⟩
    · have hkept : (storeAt ops (j + 1)).Shielded old :=
        (ih hold).succ hops hsteady le_rfl (Keyed.mem_values_iff.mpr ⟨id, hold⟩)
      exact hkept
    · exact hshield

lemma shielded_later (hsteady : Steady ops) {i j : Nat} (hji : j ≤ i)
    (hr : r ∈ (storeAt ops j).mined.values) : (storeAt ops i).Shielded r := by
  induction i, hji using Nat.le_induction with
  | base => exact shielded_storeAt hops hsteady hr
  | succ i hji ih => exact ih.succ hops hsteady hji hr

end Run

/-- Two shielded rules of one fact have the same id: the one that comes first among the
candidates would stand in the way of the other. -/
lemma distinct_of_shielded (hs : s.Consistent) (h : ∀ r ∈ s.mined.values, s.Shielded r) :
    s.Distinct := by
  intro r hr r' hr' htoken hcategory hrelease
  have hfact : r.fact = r'.fact := by rw [MinedRule.fact, MinedRule.fact, htoken, hcategory]
  have hbase : r.base = r'.base := by rw [MinedRule.base, MinedRule.base, htoken, hrelease]
  obtain ⟨n, hn, hbefore⟩ := h r hr
  obtain ⟨n', hn', hbefore'⟩ := h r' hr'
  rw [hs.mined_own.mem_values_iff] at hr hr'
  rcases Nat.lt_trichotomy n n' with hlt | rfl | hlt
  · obtain ⟨h', hh', hne⟩ := hbefore' n hlt
    rw [← hbase, hn, hs.holder_of_mined hr, hfact] at hh'
    exact absurd (Option.some.inj hh').symm hne
  · rw [← hn, hbase, hn', hr'] at hr
    exact (Option.some.inj hr).symm
  · obtain ⟨h', hh', hne⟩ := hbefore n' hlt
    rw [hbase, hn', hs.holder_of_mined hr', ← hfact] at hh'
    exact absurd (Option.some.inj hh').symm hne

/-- **When facts keep their ids.**  A service starts with nothing, loads catalogues, adds
entries, ingests and reviews.  At every time no two rules are about the same token, category
and release, and every fact that has had a rule by then gets the rule's id back, just when no
operation takes a static id away that stands before the id of a mined rule. -/
theorem facts_keep_their_ids_iff (ops : List Op) (hops : ∀ op ∈ ops, op.isRoutine = true) :
    (∀ i, (storeAt ops i).Distinct ∧
      ∀ j ≤ i, ∀ r ∈ (storeAt ops j).mined.values, (storeAt ops i).Returns r) ↔ Steady ops := by
  constructor
  · intro h i j hji r hr m n hm hn hstatic
    have hreturns := (h (i + 1)).2 j (by omega) r hr
    obtain ⟨n', hn', hbefore⟩ := shielded_of_returns (coherent_storeAt ops (i + 1))
      (made_storeAt hops hr) hreturns
    rw [← hn] at hn'
    cases Registry.candidate_injective hn'
    -- the fact gets its id back afterwards, so the candidate is still held; by the static rule,
    -- since no id changes hands
    obtain ⟨h', hh', -⟩ := hbefore m hm
    rcases (follows_storeAt hops i).holders _ _ (holder_of_static hstatic) with hkept | ⟨-, hfree⟩
    · exact holder_eq_reserved_iff.mp hkept
    · rw [hfree] at hh'
      cases hh'
  · intro hsteady i
    refine ⟨?_, fun j hji r hr => ?_⟩
    · exact distinct_of_shielded (coherent_storeAt ops i).consistent
        fun r hr => shielded_storeAt hops hsteady hr
    · exact returns_of_shielded (coherent_storeAt ops i) (shielded_later hops hsteady hji hr)
        (holder_later hops hji hr)

/-! ## A load that frees an id -/

/-- A static rule under the id that the removal of the sample notes leads to. -/
def reservedRule : StaticRule where
  id := "auto-a-1.0"
  pattern := "<a>"
  description := "reserved"
  correction := none
  severity := .warning

/-- The sample notes are ingested while the static rule is there. -/
def reservedRun : List Op :=
  [.load [reservedRule] [], .ingest plain sampleNotes "1.0" (.ofEpoch 0)]

/-- Then an empty catalogue takes the static rule away, and the notes are ingested again. -/
def freedRun : List Op :=
  reservedRun ++ [.load [] [], .ingest plain sampleNotes "1.0" (.ofEpoch 1)]

/-- The rule that the notes lead to under an id. -/
def sampleDraftAt (id : String) (nanos : Nat) : MinedRule :=
  plain.draft id (Clock.ofEpoch nanos).now sampleRecord

lemma statics_mined_reservedRun :
    (storeAt reservedRun 1).statics = [reservedRule] ∧ (storeAt reservedRun 1).mined = .empty := by
  have hsome : (Regex.compile "<a>").isSome = true := by cbv
  obtain ⟨x, hx⟩ := Option.isSome_iff_exists.mp hsome
  have hcompiled : Compiled StaticRule.view [] [reservedRule] [(reservedRule, x)] :=
    ⟨rfl, by simpa [reservedRule] using hx, by simp, by simp⟩
  have hload : empty.loadStatics [reservedRule] []
      = .ok (empty.replaceStatics [(reservedRule, x)] []).refresh :=
    loadStatics_eq_ok_iff.mpr
      ⟨_, hcompiled, by simp [danglingAmong, reservedRule], by simp [empty], rfl⟩
  have hop : reservedRun[0]? = some (Op.load [reservedRule] []) := rfl
  have hstore : storeAt reservedRun 1 = (empty.replaceStatics [(reservedRule, x)] []).refresh := by
    rw [storeAt_succ_of_some hop, storeAt_zero, after, attempt, hload]
  rw [hstore]
  exact ⟨rfl, rfl⟩

/-- With the base id reserved, the rule gets the suffix two. -/
lemma statics_mined_reservedRun_two :
    (storeAt reservedRun 2).statics = [reservedRule] ∧
      (storeAt reservedRun 2).mined
        = Keyed.empty.insert "auto-a-1.0-2" (sampleDraftAt "auto-a-1.0-2" 0) := by
  obtain ⟨hstatics, hmined⟩ := statics_mined_reservedRun
  have hregistry : Ingest.registryOf plain (storeAt reservedRun 1)
      = Ingest.registryOf plain { empty with statics := [reservedRule] } := by
    rw [Ingest.registryOf, hstatics, hmined]
    rfl
  have hoffer : plain.offer (Ingest.registryOf plain (storeAt reservedRun 1)) sampleRecord
      = .ok "auto-a-1.0-2" := by
    rw [hregistry]
    exact Synthesizer.offer_eq_ok_iff.mpr ⟨fault_sampleRecord, by decide⟩
  obtain ⟨x, hx⟩ := ingest_sampleNotes (coherent_storeAt reservedRun 1) hoffer
    (by rw [hmined]; rfl) (.ofEpoch 0)
  have hop : reservedRun[1]? = some (Op.ingest plain sampleNotes "1.0" (.ofEpoch 0)) := rfl
  rw [storeAt_succ_of_some hop, after_ingest, hx]
  exact ⟨hstatics, congrArg (fun t : Keyed MinedRule => t.insert _ _) hmined⟩

lemma mem_values_reservedRun :
    sampleDraftAt "auto-a-1.0-2" 0 ∈ (storeAt reservedRun 2).mined.values := by
  rw [statics_mined_reservedRun_two.2]
  exact Keyed.mem_values_iff.mpr ⟨"auto-a-1.0-2", Keyed.find?_insert_self _ _ _⟩

/-- No static rule is taken away once the rule of the notes is there. -/
lemma steady_reservedRun : Steady reservedRun := by
  intro i j hji r hr m n _ _ hstatic
  by_cases hi : 2 ≤ i
  · have hnone : reservedRun[i]? = none := List.getElem?_eq_none hi
    rw [storeAt_succ_of_none hnone]
    exact hstatic
  · obtain ⟨id, hid⟩ := Keyed.mem_values_iff.mp hr
    have hj : j = 0 ∨ j = 1 := by omega
    rcases hj with rfl | rfl
    · cases hid
    · rw [statics_mined_reservedRun.2] at hid
      cases hid

/-- While the static rule is there, the rule of the notes gets its id back. -/
theorem reservedRun_returns :
    (∀ op ∈ reservedRun, op.isRoutine = true) ∧ (storeAt reservedRun 2).Distinct ∧
      (sampleDraftAt "auto-a-1.0-2" 0 ∈ (storeAt reservedRun 2).mined.values ∧
        (storeAt reservedRun 2).Returns (sampleDraftAt "auto-a-1.0-2" 0)) := by
  have hops : ∀ op ∈ reservedRun, op.isRoutine = true := by
    simp [reservedRun, Op.isRoutine]
  obtain ⟨hdistinct, hreturns⟩ := (facts_keep_their_ids_iff reservedRun hops).mpr
    steady_reservedRun 2
  exact ⟨hops, hdistinct, mem_values_reservedRun, hreturns 2 le_rfl _ mem_values_reservedRun⟩

lemma statics_mined_freedRun :
    (storeAt freedRun 3).statics = [] ∧
      (storeAt freedRun 3).mined
        = Keyed.empty.insert "auto-a-1.0-2" (sampleDraftAt "auto-a-1.0-2" 0) := by
  have htwo : storeAt freedRun 2 = storeAt reservedRun 2 := rfl
  have hload : (storeAt freedRun 2).loadStatics [] []
      = .ok ((storeAt freedRun 2).replaceStatics [] []).refresh :=
    loadStatics_eq_ok_iff.mpr ⟨[], ⟨rfl, by simp, by simp, by simp⟩, by simp, by simp, rfl⟩
  have hop : freedRun[2]? = some (Op.load [] []) := rfl
  rw [storeAt_succ_of_some hop, after, attempt, hload]
  refine ⟨rfl, ?_⟩
  rw [← statics_mined_reservedRun_two.2, ← htwo]
  rfl

/-- Once the static rule has gone, the notes lead to a second rule of the same fact. -/
theorem freedRun_not_distinct :
    (∀ op ∈ freedRun, op.isRoutine = true) ∧ ¬ (storeAt freedRun 4).Distinct := by
  refine ⟨by simp [freedRun, reservedRun, Op.isRoutine], fun hdistinct => ?_⟩
  obtain ⟨hstatics, hmined⟩ := statics_mined_freedRun
  have hregistry : Ingest.registryOf plain (storeAt freedRun 3)
      = Ingest.registryOf plain { empty with
          mined := Keyed.empty.insert "auto-a-1.0-2" (sampleDraftAt "auto-a-1.0-2" 0) } := by
    rw [Ingest.registryOf, hstatics, hmined]
    rfl
  have hoffer : plain.offer (Ingest.registryOf plain (storeAt freedRun 3)) sampleRecord
      = .ok "auto-a-1.0" := by
    rw [hregistry]
    exact Synthesizer.offer_eq_ok_iff.mpr ⟨fault_sampleRecord, by decide⟩
  have hfree : (storeAt freedRun 3).mined.find? "auto-a-1.0" = none := by
    rw [hmined, Keyed.find?_insert_of_ne _ _ (by decide), Keyed.find?_empty]
  obtain ⟨x, hx⟩ := ingest_sampleNotes (coherent_storeAt freedRun 3) hoffer hfree (.ofEpoch 1)
  have hfour : (storeAt freedRun 4).mined
      = (Keyed.empty.insert "auto-a-1.0-2" (sampleDraftAt "auto-a-1.0-2" 0)).insert "auto-a-1.0"
        (sampleDraftAt "auto-a-1.0" 1) := by
    have hop : freedRun[3]? = some (.ingest plain sampleNotes "1.0" (.ofEpoch 1)) := rfl
    rw [storeAt_succ_of_some hop, after_ingest, hx]
    exact congrArg (fun t : Keyed MinedRule => t.insert _ _) hmined
  have hold : sampleDraftAt "auto-a-1.0-2" 0 ∈ (storeAt freedRun 4).mined.values := by
    rw [hfour, Keyed.mem_values_iff]
    exact ⟨"auto-a-1.0-2", by
      rw [Keyed.find?_insert_of_ne _ _ (by decide), Keyed.find?_insert_self]⟩
  have hnew : sampleDraftAt "auto-a-1.0" 1 ∈ (storeAt freedRun 4).mined.values := by
    rw [hfour, Keyed.mem_values_iff]
    exact ⟨"auto-a-1.0", Keyed.find?_insert_self _ _ _⟩
  have hsame : sampleDraftAt "auto-a-1.0-2" 0 = sampleDraftAt "auto-a-1.0" 1 :=
    hdistinct _ hold _ hnew (by simp [sampleDraftAt]) (by simp [sampleDraftAt])
      (by simp [sampleDraftAt])
  have hid : "auto-a-1.0-2" = "auto-a-1.0" := congrArg MinedRule.id hsame
  exact absurd hid (by decide)

end Store
end Deprecation
