/-
# What a cycle rejects

A cycle lists the records that became no rules and the rules that the store refused.  There are
many errors that these lists could name, for the synthesizer and the store check again what
other parts have seen to.  In a cycle almost all of these checks pass.  The parser gives tokens
that are not blank, and the headings of a document give labels that are not empty.  The pattern
of a token is well formed whatever the token is, and the id of a rule comes from a registry in
which the static ids are reserved.  A rule is submitted as a draft and refers to no entry.

What is left is this.  The store refuses a rule where a reviewed rule of other content stands
under its id, and this one was reviewed before the cycle began, since no cycle reviews a rule.
A record becomes no rule when it lacks an id, or when notes are ingested under a blank version.
Both lists can be told from the store that a cycle leaves: no id becomes free in it, so a record
would be answered then as it was answered.  That the pattern of a token takes no more memory than
a pattern may take is seen to by nobody, and is assumed of the records.
-/
import Mathlib
import Deprecation.Proofs.Ingest.Concord
import Deprecation.Proofs.Store.Review
import Deprecation.Proofs.TokenPattern

namespace Deprecation

open Text

/-! ## The message of a refusal -/

namespace StoreError

variable {id id' : String} {status status' : Status}

lemma message_alreadyReviewed (id : String) (status : Status) :
    (alreadyReviewed id status).message
      = "Rule '" ++ id ++ "' is already " ++ status.name ++ "; supersede it with a new id" :=
  rfl

lemma eq_of_message_alreadyReviewed
    (h : (alreadyReviewed id status).message = (alreadyReviewed id' status').message) :
    id = id' ∧ status = status' := by
  have hlist := congrArg String.toList h
  simp only [message_alreadyReviewed, String.toList_append] at hlist
  have hbegin := List.append_cancel_right hlist
  have hstatus : status = status' := by
    have hreverse := congrArg List.reverse hbegin
    cases status <;> cases status' <;> first | rfl | simp [Status.name] at hreverse
  subst hstatus
  have hid := List.append_cancel_right (List.append_cancel_right hbegin)
  exact ⟨String.toList_inj.mp (List.append_cancel_left hid), rfl⟩

/-- Nothing else is said as it is said that a rule has been reviewed already. -/
theorem message_eq_alreadyReviewed_iff {e : StoreError} :
    (alreadyReviewed id status).message = e.message ↔ e = .alreadyReviewed id status := by
  refine ⟨fun h => ?_, fun h => h ▸ rfl⟩
  -- the other messages begin with other letters, or they end with others
  have hbegin : ∀ m, (alreadyReviewed id status).message = m →
      m.toList.take 6 = ['R', 'u', 'l', 'e', ' ', '\''] := by
    rintro m rfl
    rw [message_alreadyReviewed]
    simp
  have hend : ∀ m, (alreadyReviewed id status).message = m →
      m.toList.reverse.take 2 = ['d', 'i'] := by
    rintro m rfl
    rw [message_alreadyReviewed]
    simp
  cases e with
  | alreadyReviewed id' status' =>
    obtain ⟨rfl, rfl⟩ := eq_of_message_alreadyReviewed h
    rfl
  | duplicateRule id' =>
    change _ = _ ++ id' at h
    simpa using hbegin _ h
  | staticConflict id' =>
    change _ = _ ++ id' ++ _ at h
    simpa using hbegin _ h
  | unknownRule id' =>
    change _ = _ ++ id' at h
    simpa using hbegin _ h
  | invalidTransition id' current wanted =>
    change _ = _ ++ id' ++ _ ++ current.name ++ _ ++ wanted.name at h
    simpa using hbegin _ h
  | corrupt cause =>
    change _ = _ ++ cause.message at h
    simpa using hbegin _ h
  | medium cause =>
    change _ = _ ++ cause.message at h
    simpa using hbegin _ h
  | invalidPattern id' =>
    change _ = _ ++ id' ++ _ at h
    simpa using hend _ h
  | danglingCorrection id' entry =>
    change _ = _ ++ id' ++ _ ++ entry ++ _ at h
    simpa using hend _ h
  | missingRelease id' =>
    change _ = _ ++ id' ++ _ at h
    simpa using hend _ h
  | notDraft id' status' =>
    change _ = _ ++ id' ++ _ ++ status'.name at h
    cases status' <;> simpa [Status.name] using hend _ h

end StoreError

/-! ## Records that become no rule -/

/-- A record lacks an id in a store, and an error says why: its token has no letter or digit to
build one from, or others hold all ids that it could have. -/
def Record.LacksId (r : Record) (z : Synthesizer) (s : Store) (e : SynthesisError) : Prop :=
  if (RuleId.slug r.token).isEmpty then e = .emptySlug r.token
  else (∀ id ∈ z.registry.candidates r.base, ∃ h, s.holder id = some h ∧ h ≠ r.fact) ∧
    e = .idCollision r.token r.base

namespace Synthesizer

variable {z : Synthesizer} {s : Store} {r : Record} {e : SynthesisError}

/-- The pattern of a record takes no more memory than a compiled pattern may take. -/
def Fits (z : Synthesizer) (r : Record) : Prop :=
  (TokenPattern.expr z.legacyPrefixes (trimmed r.token)).fits = true

lemma fits_iff : z.Fits r ↔ (Regex.compile (z.patternOf r)).isSome = true :=
  (TokenPattern.compile_pattern_isSome_iff _ _).symm

/-- A store has no id for a record just when others hold all that it could have. -/
lemma choose_registryOf_eq_none_iff (hs : s.Consistent) :
    (Ingest.registryOf z s).choose r.fact r.base = none ↔
      ∀ id ∈ z.registry.candidates r.base, ∃ h, s.holder id = some h ∧ h ≠ r.fact := by
  have hmax : z.registry.maxSuffix = z.maxSuffix := rfl
  simp only [Registry.choose_eq_none_iff, Registry.admits_eq_false_iff, Registry.mem_candidates_iff,
    Ingest.holder_registryOf z hs, Ingest.maxSuffix_registryOf, hmax]
  exact ⟨fun h id ⟨n, hn, hid⟩ => hid ▸ h n hn, fun h n hn => h _ ⟨n, hn, rfl⟩⟩

/-- A record that has a token, and a pattern that fits, becomes no rule for want of a release or
of an id, and for nothing else. -/
lemma offer_eq_error_iff (hs : s.Consistent) (htoken : Changelog.IsToken r.token)
    (hfits : z.Fits r) :
    z.offer (Ingest.registryOf z s) r = .error e ↔
      if (trimmed r.release).isEmpty then e = .missingRelease r.token else r.LacksId z s e := by
  obtain ⟨htrimmed, hne⟩ := htoken
  have hcompiles : (Regex.compile (z.patternOf r)).isNone = false := by
    simpa using fits_iff.mp hfits
  rw [offer, fault, hcompiles, htrimmed, hne, Record.LacksId, ← choose_registryOf_eq_none_iff hs]
  by_cases hrelease : (trimmed r.release).isEmpty = true
  · simp [hrelease, eq_comm]
  by_cases hslug : (RuleId.slug r.token).isEmpty = true
  · simp [hrelease, hslug, eq_comm]
  · cases (Ingest.registryOf z s).choose r.fact r.base with
    | none => simp [hrelease, hslug, eq_comm]
    | some id => simp [hrelease, hslug]

end Synthesizer

/-! ## Rules that are refused -/

namespace Ingest

open Store

variable {z : Synthesizer} {s t u : Store} {r : Record} {x : Refusal} {id : String}

/-- A store refuses what a record becomes under the id that another store has for it: a reviewed
rule of other content is there, and the reason that is given is this one and no other. -/
def Refuses (z : Synthesizer) (s t : Store) (r : Record) (x : Refusal) : Prop :=
  z.offer (registryOf z t) r = .ok x.ruleId ∧
    ∃ old, s.mined.find? x.ruleId = some old ∧ old.status ≠ .draft ∧
      (∀ now, old.sameContent (z.draft x.ruleId now r) = false) ∧
      ∀ e : StoreError, x.reason = e.message ↔ e = .alreadyReviewed x.ruleId old.status

/-- It does not matter at what time of a cycle the store is looked at, since a cycle reviews
nothing. -/
lemma refuses_iff_of_redrafts (hst : ∀ id, Redrafts (s.mined.find? id) (t.mined.find? id)) :
    Refuses z t u r x ↔ Refuses z s u r x := by
  refine and_congr_right fun _ => exists_congr fun old => ?_
  constructor
  · rintro ⟨hold, hfinal, hreason⟩
    exact ⟨((hst x.ruleId).final_iff hfinal).mp hold, hfinal, hreason⟩
  · rintro ⟨hold, hfinal, hreason⟩
    exact ⟨((hst x.ruleId).final_iff hfinal).mpr hold, hfinal, hreason⟩

lemma redrafts_record (z : Synthesizer) (st : State) (r : Record) (id : String) :
    Redrafts (st.store.mined.find? id) ((record z st r).2.store.mined.find? id) := by
  rcases record_store z st r with heq | ⟨rule, -, heq⟩
  · rw [heq]
    exact .refl _
  · rw [heq]
    exact redrafts_submit _ rule id

/-- No rule is refused where the one under its id is a draft or has the same content. -/
lemma not_refuses (hoffer : z.offer (registryOf z t) r = .ok id)
    (hold : ∀ old, s.mined.find? id = some old →
      old.status = .draft ∨ ∃ now, old.sameContent (z.draft id now r) = true) :
    ¬ Refuses z s t r x := by
  rintro ⟨hoffer', old, hfind, hfinal, hdiffers, -⟩
  rw [hoffer] at hoffer'
  cases hoffer'
  rcases hold old hfind with hdraft | ⟨now, hsame⟩
  · exact hfinal hdraft
  · rw [hdiffers now] at hsame
    cases hsame

/-- What one record adds to the lists of a report. -/
lemma record_rejects_iff (h : s.Coherent) (z : Synthesizer) (clock : Clock) (r : Record) :
    (∀ x, x ∈ (record z (start z s clock) r).1.refused ↔ Refuses z s s r x) ∧
      ∀ e, e ∈ (record z (start z s clock) r).1.unsynthesized ↔
        z.offer (registryOf z s) r = .error e := by
  cases hoffer : z.offer (registryOf z s) r with
  | error e =>
    rw [record_of_offer_error hoffer]
    refine ⟨fun x => ?_, by simp [eq_comm]⟩
    simp [Refuses, hoffer, IngestReport.empty]
  | ok id =>
    rw [record_of_offer_ok h hoffer, submit]
    cases outcome_of_offer h.consistent hoffer clock.now with
    | inserted y hfree hs =>
      have hno : ∀ x, ¬ Refuses z s s r x := fun x => not_refuses hoffer fun old hold => by
        rw [Synthesizer.id_draft, hold] at hfree
        cases hfree
      simp [hs, hno, IngestReport.ofRecord, IngestReport.empty]
    | unchanged old hold _ hsame hs =>
      have hno : ∀ x, ¬ Refuses z s s r x := fun x => not_refuses hoffer fun old' hold' => by
        rw [Synthesizer.id_draft, hold'] at hold
        cases hold
        exact Or.inr ⟨_, hsame⟩
      simp [hs, hno, IngestReport.ofRecord, IngestReport.empty]
    | replaced y old hold _ _ hdraft hs =>
      have hno : ∀ x, ¬ Refuses z s s r x := fun x => not_refuses hoffer fun old' hold' => by
        rw [Synthesizer.id_draft, hold'] at hold
        cases hold
        exact Or.inl hdraft
      simp [hs, hno, IngestReport.ofRecord, IngestReport.empty]
    | refused old hold _ hsame hfinal hs =>
      rw [Synthesizer.id_draft] at hold hs
      rw [hs]
      refine ⟨fun x => ?_, by simp [IngestReport.ofRecord, IngestReport.empty]⟩
      show x ∈ [⟨id, (StoreError.alreadyReviewed id old.status).message⟩] ↔ _
      rw [List.mem_singleton]
      constructor
      · rintro rfl
        refine ⟨hoffer, old, hold, hfinal, fun now => ?_,
          fun e => StoreError.message_eq_alreadyReviewed_iff⟩
        rw [Synthesizer.sameContent_draft old now clock.now, hsame]
      · obtain ⟨id', reason⟩ := x
        rintro ⟨hoffer', old', hold', -, -, hreason⟩
        rw [hoffer] at hoffer'
        cases hoffer'
        rw [hold] at hold'
        cases hold'
        rw [Refusal.mk.injEq]
        exact ⟨rfl, (hreason _).mpr rfl⟩

/-- A record leaves a store in which no id has become free, and from then on it is offered what it
was offered. -/
lemma record_leaves (h : s.Coherent) (z : Synthesizer) (clock : Clock) (r : Record) :
    ∃ report t, record z (start z s clock) r = (report, start z t (clock.after 1)) ∧
      t.Coherent ∧ s.KeepsHolders t ∧
      ∀ u : Store, u.Consistent → t.KeepsHolders u →
        z.offer (registryOf z u) r = z.offer (registryOf z s) r := by
  cases hoffer : z.offer (registryOf z s) r with
  | error e =>
    refine ⟨_, s, record_of_offer_error hoffer clock, h, .refl s, fun u hu hsu => ?_⟩
    exact Synthesizer.offer_error_of_extends (extends_registryOf h.consistent hu hsu) (by simp)
      hoffer
  | ok id =>
    have ht := h.after (.submit (z.draft id clock.now r))
    refine ⟨_, _, record_of_offer_ok h hoffer clock, ht,
      keepsHolders_after_draft h.consistent hoffer clock.now, fun u hu htu => ?_⟩
    refine Synthesizer.offer_ok_of_extends (extends_registryOf ht.consistent hu htu) (by simp) ?_
      (offer_after_draft h hoffer clock.now)
    rw [holder_registryOf z hu]
    apply htu
    rw [holder_after_draft h.consistent hoffer, if_pos rfl]

/-- All refusals of a pass go back to rules that had been reviewed when it began, and they can be
told from the store that it leaves, as can the records that become no rules. -/
theorem steps_rejects_iff (h : s.Coherent) (z : Synthesizer) (clock : Clock)
    (records : List Record) :
    ∃ report t, steps (record z) (start z s clock) records
        = (report, start z t (clock.after records.length)) ∧
      t.Coherent ∧ s.KeepsHolders t ∧
      (∀ x, x ∈ report.refused ↔ ∃ r ∈ records, Refuses z s t r x) ∧
      ∀ e, e ∈ report.unsynthesized ↔ ∃ r ∈ records, z.offer (registryOf z t) r = .error e := by
  induction records generalizing s clock with
  | nil =>
    exact ⟨.empty, s, rfl, h, .refl s, by simp [IngestReport.empty], by simp [IngestReport.empty]⟩
  | cons r records ih =>
    obtain ⟨hrefused, herrors⟩ := record_rejects_iff h z clock r
    have hredrafts := redrafts_record z (start z s clock) r
    obtain ⟨first, t, hrecord, ht, hst, hagain⟩ := record_leaves h z clock r
    obtain ⟨others, u, hsteps, hu, htu, hrefused', herrors'⟩ := ih ht (clock.after 1)
    rw [hrecord] at hrefused herrors hredrafts
    have hoffer := hagain u hu.consistent htu
    refine ⟨first ++ others, u, ?_, hu, hst.trans htu, fun x => ?_, fun e => ?_⟩
    · rw [steps, hrecord]
      dsimp only
      rw [hsteps, Clock.after_after, List.length_cons, Nat.add_comm]
    · show x ∈ first.refused ++ others.refused ↔ _
      rw [List.mem_append, hrefused, hrefused', List.exists_mem_cons_iff]
      refine or_congr ?_ (exists_congr fun r' => and_congr_right fun _ => ?_)
      · rw [Refuses, Refuses, hoffer]
      · exact refuses_iff_of_redrafts hredrafts
    · show e ∈ first.unsynthesized ++ others.unsynthesized ↔ _
      rw [List.mem_append, herrors, herrors', List.exists_mem_cons_iff, hoffer]

lemma cycle_rejects_iff (h : s.Coherent) (z : Synthesizer) (releases : List Release)
    (clock : Clock) :
    (cycle z releases s clock).2.1.Coherent ∧
      (∀ x, x ∈ (cycle z releases s clock).1.refused ↔
        ∃ r ∈ releases.flatMap Release.records, Refuses z s (cycle z releases s clock).2.1 r x) ∧
      ∀ e, e ∈ (cycle z releases s clock).1.unsynthesized ↔
        ∃ r ∈ releases.flatMap Release.records,
          z.offer (registryOf z (cycle z releases s clock).2.1) r = .error e := by
  obtain ⟨report, t, hsteps, ht, -, hrejects⟩ :=
    steps_rejects_iff h z clock (releases.flatMap Release.records)
  obtain ⟨hreport, hstore⟩ := cycle_eq_steps z releases s clock
  rw [hsteps] at hreport hstore
  have hrefused := congrArg IngestReport.refused hreport
  have herrors := congrArg IngestReport.unsynthesized hreport
  simp only [IngestReport.onRecords] at hrefused herrors
  rw [hrefused, herrors, hstore]
  exact ⟨ht, hrejects⟩

end Ingest

namespace Store

open Changelog (records)

/-- **What an ingestion rejects.**  After any run the notes of a release or a document are
ingested.  A rule is refused by the store just when a reviewed rule of other content was under
its id before, and no other error of the store has such a reason.  If the patterns of all
records fit, then a record becomes no rule just when it lacks an id in the store that is left;
under a blank version all records of the notes become none for that, which cannot happen in a
document. -/
theorem ingestion_rejects_iff (ops : List Op) (z : Synthesizer) (clock : Clock) :
    let s := empty.run ops
    (∀ text version,
      let cycle := s.ingest z text version clock
      (∀ x, x ∈ cycle.1.refused ↔
        ∃ r ∈ records text version, Ingest.Refuses z s cycle.2.1 r x) ∧
      ((∀ r ∈ records text version, z.Fits r) →
        ∀ e, e ∈ cycle.1.unsynthesized ↔ ∃ r ∈ records text version,
          if (trimmed version).isEmpty then e = .missingRelease r.token
          else r.LacksId z cycle.2.1 e)) ∧
    (∀ text,
      let cycle := s.ingestDocument z text clock
      (∀ x, x ∈ cycle.1.refused ↔
        ∃ r ∈ sectionRecords text, Ingest.Refuses z s cycle.2.1 r x) ∧
      ((∀ r ∈ sectionRecords text, z.Fits r) →
        ∀ e, e ∈ cycle.1.unsynthesized ↔
          ∃ r ∈ sectionRecords text, r.LacksId z cycle.2.1 e)) := by
  intro s
  have hcoherent : s.Coherent := coherent_run ops
  constructor
  · intro text version cycle
    have hcycle : cycle = Ingest.cycle z [.ofNotes text version] s clock := rfl
    obtain ⟨hafter, hrefused, herrors⟩ := Ingest.cycle_rejects_iff hcoherent z _ clock
    rw [← hcycle] at hafter hrefused herrors
    rw [List.flatMap_singleton] at hrefused herrors
    refine ⟨hrefused, fun hfits e => (herrors e).trans ?_⟩
    refine exists_congr fun r => and_congr_right fun hr => ?_
    obtain ⟨htoken, hrelease⟩ := Changelog.of_mem_records hr
    rw [Synthesizer.offer_eq_error_iff hafter.consistent htoken (hfits r hr), hrelease,
      trimmed_trimmed]
  · intro text cycle
    have hcycle : cycle = Ingest.cycle z (Ingest.Release.ofDocument text) s clock := rfl
    obtain ⟨hafter, hrefused, herrors⟩ := Ingest.cycle_rejects_iff hcoherent z _ clock
    rw [← hcycle] at hafter hrefused herrors
    rw [← sectionRecords] at hrefused herrors
    refine ⟨hrefused, fun hfits e => (herrors e).trans ?_⟩
    refine exists_congr fun r => and_congr_right fun hr => ?_
    obtain ⟨x, hx, hrx⟩ := mem_sectionRecords.mp hr
    obtain ⟨htoken, hrelease⟩ := Changelog.of_mem_records hrx
    -- a section has a version, so its records name a release
    rw [Synthesizer.offer_eq_error_iff hafter.consistent htoken (hfits r hr), hrelease,
      trimmed_trimmed, Changelog.trimmed_version hx, Changelog.isEmpty_version hx,
      if_neg Bool.false_ne_true]

/-- Notes that announce the removal of a mark. -/
def markNotes : String := "Removed `!`"

/-- The record of the removal, for the release `1.0`. -/
def markRecord : Record where
  token := "!"
  replacement := none
  category := .removed
  release := "1.0"

lemma records_markNotes : records markNotes "1.0" = [markRecord] := by
  decide

lemma compiles_markRecord : (Regex.compile (plain.patternOf markRecord)).isSome = true := by
  have hpattern : plain.patternOf markRecord = "!" := by decide
  rw [hpattern]
  cbv

/-- The notes give one record, the pattern of which fits; it becomes no rule, since a mark has
no letter or digit. -/
theorem markRecord_becomes_no_rule :
    (∀ r ∈ records markNotes "1.0", plain.Fits r) ∧
    ∀ e, e ∈ ((empty.run []).ingest plain markNotes "1.0" (.ofEpoch 0)).1.unsynthesized ↔
      e = .emptySlug "!" := by
  have hfits : ∀ r ∈ records markNotes "1.0", plain.Fits r := by
    intro r hr
    rw [records_markNotes, List.mem_singleton] at hr
    rw [hr, Synthesizer.fits_iff]
    exact compiles_markRecord
  refine ⟨hfits, fun e => ?_⟩
  obtain ⟨-, herrors⟩ := (ingestion_rejects_iff [] plain (.ofEpoch 0)).1 markNotes "1.0"
  have hversion : (trimmed "1.0").isEmpty = false := by decide
  have hslug : RuleId.slug "!" = "" := by decide
  rw [herrors hfits e, records_markNotes]
  simp [hversion, Record.LacksId, markRecord, hslug]

end Store
end Deprecation
