/-
# Reviews are final

A mined rule enters a store as a draft, and a review moves it to approved or rejected.  This
file shows that there is no other way: as long as no snapshot takes the place of the store, a
rule never goes away, its status changes in a review of it and in nothing else, of all reviews
of it one at most is accepted, and from then on the rule stays as it is, content, status and
time, whatever is loaded, submitted or ingested.

All of it comes from what one operation may do to the rule under an id.  It leaves the rule,
or it puts a draft where nothing or a draft stood, or it is a review of that rule.
-/
import Mathlib
import Deprecation.Proofs.Store.Coherence

namespace Deprecation
namespace Store

/-! ## One operation -/

/-- What is under an id stays, or a draft comes where nothing but a draft stood. -/
def Redrafts (old new : Option MinedRule) : Prop :=
  new = old ∨ (∀ r, old = some r → r.status = .draft) ∧ ∃ r, new = some r ∧ r.status = .draft

lemma Redrafts.refl (held : Option MinedRule) : Redrafts held held := Or.inl rfl

lemma Redrafts.trans {a b c : Option MinedRule} (hab : Redrafts a b) (hbc : Redrafts b c) :
    Redrafts a c := by
  rcases hab with rfl | ⟨ha, r, rfl, hr⟩
  · exact hbc
  · rcases hbc with rfl | ⟨-, hc⟩
    · exact Or.inr ⟨ha, r, rfl, hr⟩
    · exact Or.inr ⟨ha, hc⟩

/-- Where at most a draft may have come, a reviewed rule is the one that was there before. -/
lemma Redrafts.final_iff {old new : Option MinedRule} (h : Redrafts old new) {r : MinedRule}
    (hr : r.status ≠ .draft) : new = some r ↔ old = some r := by
  rcases h with rfl | ⟨hold, r', rfl, hdraft⟩
  · exact Iff.rfl
  · constructor
    · intro h
      cases h
      exact absurd hdraft hr
    · intro h
      exact absurd (hold r h) hr

lemma redrafts_submit (s : Store) (r : MinedRule) (id : String) :
    Redrafts (s.mined.find? id) ((s.after (.submit r)).mined.find? id) := by
  rcases s.after_submit_eq_self_or r with heq | ⟨o, ho⟩
  · rw [heq]
    exact Redrafts.refl _
  · obtain ⟨x, hx, hout, heq⟩ := submit_eq_ok_iff.mp ho
    rw [heq]
    split
    · exact Redrafts.refl _
    next hne =>
    show Redrafts _ ((s.mined.insert r.id r).find? id)
    rw [Keyed.find?_insert]
    split
    next hid =>
      subst hid
      refine Or.inr ⟨?_, r, rfl, hx.draft⟩
      -- what stood there was no reviewed rule, or the submission would have been refused
      intro old hold
      rcases submissionOf_cases (s.mined.find? r.id) r with
        ⟨hnone, -⟩ | ⟨old', hold', ⟨-, h⟩ | ⟨-, -, h⟩ | ⟨-, hdraft, -⟩⟩
      · rw [hnone] at hold
        cases hold
      · rw [h] at hout
        cases hout
        exact absurd rfl hne
      · rw [h] at hout
        cases hout
      · rw [hold'] at hold
        cases hold
        exact hdraft
    next => exact Redrafts.refl _

/-- A review of a rule is accepted: it was a draft, and it is what it was but for the status. -/
def Reviews (s : Store) (op : Op) (id : String) (status : Status) : Prop :=
  op = .setStatus id status ∧ ∃ p, s.setStatus id status = .ok p

lemma Reviews.find? {s : Store} {op : Op} {id : String} {status : Status}
    (h : s.Reviews op id status) :
    ∃ r, s.mined.find? id = some r ∧ r.status = .draft ∧ status ≠ .draft ∧
      (s.after op).mined.find? id = some { r with status } := by
  obtain ⟨rfl, ⟨reviewed, t⟩, hp⟩ := h
  obtain ⟨r, hr, hdraft, hstatus, rfl, rfl⟩ := setStatus_eq_ok_iff.mp hp
  refine ⟨r, hr, hdraft, hstatus, ?_⟩
  rw [after_setStatus_of_ok hp]
  exact Keyed.find?_insert_self _ _ _

/-- What an operation does to the rule under an id, unless it takes the place of the store. -/
theorem redrafts_or_reviews (s : Store) {op : Op} (hop : op.isRestore = false) (id : String) :
    Redrafts (s.mined.find? id) ((s.after op).mined.find? id) ∨
      ∃ status, s.Reviews op id status := by
  have hsubmit : ∀ (t : Store) (r : MinedRule),
      Redrafts (s.mined.find? id) (t.mined.find? id) →
      Redrafts (s.mined.find? id) ((t.after (.submit r)).mined.find? id) :=
    fun t r ht => ht.trans (redrafts_submit t r id)
  cases op with
  | load rules entries =>
    left
    rw [mined_after_load]
    exact Redrafts.refl _
  | addEntries entries =>
    left
    rw [after_addEntries, mined_addEntries]
    exact Redrafts.refl _
  | submit r => exact Or.inl (redrafts_submit s r id)
  | setStatus id' status =>
    rcases s.after_setStatus_eq_self_or id' status with heq | ⟨r, hr⟩
    · left
      rw [heq]
      exact Redrafts.refl _
    · by_cases hid : id = id'
      · subst hid
        exact Or.inr ⟨status, rfl, _, hr⟩
      · left
        obtain ⟨old, -, -, -, -, heq⟩ := setStatus_eq_ok_iff.mp hr
        rw [heq]
        show Redrafts _ ((s.mined.insert id' r).find? id)
        rw [Keyed.find?_insert_of_ne _ _ hid]
        exact Redrafts.refl _
  | ingest z text version clock =>
    exact Or.inl
      (Ingest.keeps_ingest (fun t r _ => hsubmit t r) (Redrafts.refl _) z text version clock)
  | ingestDocument z text clock =>
    exact Or.inl
      (Ingest.keeps_ingestDocument (fun t r _ => hsubmit t r) (Redrafts.refl _) z text clock)
  | restore held => cases hop

/-! ## A run -/

variable {ops : List Op} {id : String}

/-- The operation after the first `n` of a run is a review that is accepted. -/
def ReviewedAt (ops : List Op) (n : Nat) (id : String) (status : Status) : Prop :=
  ops[n]? = some (.setStatus id status) ∧ ∃ p, (storeAt ops n).setStatus id status = .ok p

lemma ReviewedAt.reviews {n : Nat} {status : Status} (h : ReviewedAt ops n id status) :
    (storeAt ops n).Reviews (.setStatus id status) id status :=
  ⟨rfl, h.2⟩

lemma ReviewedAt.find? {n : Nat} {status : Status} (h : ReviewedAt ops n id status) :
    ∃ r, (storeAt ops n).mined.find? id = some r ∧ r.status = .draft ∧ status ≠ .draft ∧
      (storeAt ops (n + 1)).mined.find? id = some { r with status } := by
  rw [storeAt_succ_of_some h.1]
  exact h.reviews.find?

section NoRestore

variable (hops : ∀ op ∈ ops, op.isRestore = false)

include hops

/-- From one time to the next. -/
lemma redrafts_or_reviewedAt (n : Nat) (id : String) :
    Redrafts ((storeAt ops n).mined.find? id) ((storeAt ops (n + 1)).mined.find? id) ∨
      ∃ status, ReviewedAt ops n id status := by
  cases hop : ops[n]? with
  | none =>
    left
    rw [storeAt_succ_of_none hop]
    exact Redrafts.refl _
  | some op =>
    rw [storeAt_succ_of_some hop]
    have hmem : op ∈ ops := List.mem_of_getElem? hop
    refine (redrafts_or_reviews _ (hops op hmem) id).imp_right ?_
    rintro ⟨status, rfl, hok⟩
    exact ⟨status, hop, hok⟩

/-- A rule that is no draft is the same one at every later time. -/
lemma find?_of_final {i j : Nat} (hij : i ≤ j) {r : MinedRule}
    (hr : (storeAt ops i).mined.find? id = some r) (hfinal : r.status ≠ .draft) :
    (storeAt ops j).mined.find? id = some r := by
  induction j, hij using Nat.le_induction with
  | base => exact hr
  | succ j _ ih =>
    -- only a draft is replaced or reviewed
    rcases redrafts_or_reviewedAt hops j id with h | ⟨status, h⟩
    · exact (h.final_iff hfinal).mpr ih
    · obtain ⟨r', hr', hdraft, -⟩ := h.find?
      rw [ih] at hr'
      cases hr'
      exact absurd hdraft hfinal

lemma has_mono {i j : Nat} (hij : i ≤ j) (h : (storeAt ops i).mined.has id = true) :
    (storeAt ops j).mined.has id = true := by
  induction j, hij using Nat.le_induction with
  | base => exact h
  | succ j _ ih =>
    rcases redrafts_or_reviewedAt hops j id with (heq | ⟨-, r, hr, -⟩) | ⟨status, hreview⟩
    · rw [Keyed.has, heq]
      exact ih
    · exact Keyed.has_iff.mpr ⟨r, hr⟩
    · obtain ⟨r, -, -, -, hr⟩ := hreview.find?
      exact Keyed.has_iff.mpr ⟨_, hr⟩

/-- The rule that a review has settled. -/
lemma ReviewedAt.find?_later {i j : Nat} {status : Status} (h : ReviewedAt ops i id status)
    (hij : i < j) :
    ∃ r, (storeAt ops (i + 1)).mined.find? id = some r ∧ r.status = status ∧
      (storeAt ops j).mined.find? id = some r := by
  obtain ⟨r, -, -, hstatus, hr⟩ := h.find?
  exact ⟨{ r with status }, hr, rfl, find?_of_final hops hij hr hstatus⟩

lemma ReviewedAt.not_again {i j : Nat} {status status' : Status} (hi : ReviewedAt ops i id status)
    (hj : ReviewedAt ops j id status') : ¬ i < j := by
  intro hij
  obtain ⟨r, -, hstatus, hr⟩ := hi.find?_later hops hij
  obtain ⟨-, -, -, hne, -⟩ := hi.find?
  obtain ⟨r', hr', hdraft, -⟩ := hj.find?
  rw [hr] at hr'
  cases hr'
  exact hne (hstatus ▸ hdraft)

/-- A rule is approved because it was reviewed so. -/
lemma approved_iff {n : Nat} :
    (∃ r, (storeAt ops n).mined.find? id = some r ∧ r.status = .approved) ↔
      ∃ i < n, ReviewedAt ops i id .approved := by
  constructor
  · induction n with
    | zero =>
      rintro ⟨r, hr, -⟩
      cases hr
    | succ n ih =>
      rintro ⟨r, hr, hstatus⟩
      rcases redrafts_or_reviewedAt hops n id with (heq | ⟨-, r', hr', hdraft⟩) | ⟨status, h⟩
      · obtain ⟨i, hi, hreview⟩ := ih ⟨r, by rw [← heq, hr], hstatus⟩
        exact ⟨i, by omega, hreview⟩
      · rw [hr] at hr'
        cases hr'
        rw [hdraft] at hstatus
        cases hstatus
      · obtain ⟨r', -, -, -, hr'⟩ := h.find?
        rw [hr] at hr'
        cases hr'
        cases hstatus
        exact ⟨n, by omega, h⟩
  · rintro ⟨i, hi, h⟩
    obtain ⟨r, -, hstatus, hr⟩ := h.find?_later hops hi
    exact ⟨r, hr, hstatus⟩

end NoRestore

/-- A mined rule is among the active ones when it is approved. -/
lemma Coherent.view_mem_active_iff {s : Store} (h : s.Coherent) {r : MinedRule}
    (hr : s.mined.find? id = some r) :
    r.view ∈ s.active.map ActiveRule.rule ↔ r.status = .approved := by
  have hid : r.id = id := h.consistent.mined_own id r hr
  rw [h.map_rule_active, activeViews, List.mem_append]
  constructor
  · rintro (hmem | hmem)
    · obtain ⟨r', -, heq⟩ := List.mem_map.mp hmem
      have horigin := congrArg Rule.origin heq
      cases horigin
    · obtain ⟨r', hr', heq⟩ := List.mem_map.mp hmem
      obtain ⟨hvalue, hstatus⟩ := mem_approved.mp hr'
      have hid' : r'.id = id := (congrArg Rule.id heq).trans hid
      rw [h.consistent.mined_own.mem_values_iff, hid', hr] at hvalue
      cases hvalue
      exact hstatus
  · intro hstatus
    right
    refine List.mem_map.mpr ⟨r, mem_approved.mpr ⟨?_, hstatus⟩, rfl⟩
    exact Keyed.mem_values_iff.mpr ⟨id, hr⟩

/-- **A review is final.**  In a run in which no snapshot takes the place of the store: a mined
rule never goes away; its status changes from draft to another one, and only in an accepted
review of it; of all reviews of it one at most is accepted; from that one on the rule is the
same at every later time; and it is active just when it has been approved before. -/
theorem review_is_final (ops : List Op) (hops : ∀ op ∈ ops, op.isRestore = false) (id : String) :
    (∀ i j, i ≤ j → (storeAt ops i).mined.has id = true → (storeAt ops j).mined.has id = true) ∧
    (∀ n r r', (storeAt ops n).mined.find? id = some r →
      (storeAt ops (n + 1)).mined.find? id = some r' → r'.status ≠ r.status →
      r.status = .draft ∧ (r'.status = .approved ∨ r'.status = .rejected) ∧
        ReviewedAt ops n id r'.status) ∧
    (∀ i j status status', ReviewedAt ops i id status → ReviewedAt ops j id status' → i = j) ∧
    (∀ i j status, ReviewedAt ops i id status → i < j →
      ∃ r, (storeAt ops (i + 1)).mined.find? id = some r ∧ r.status = status ∧
        (storeAt ops j).mined.find? id = some r) ∧
    (∀ n, (∃ r, (storeAt ops n).mined.find? id = some r ∧
        r.view ∈ (storeAt ops n).active.map ActiveRule.rule) ↔
      ∃ i < n, ReviewedAt ops i id .approved) := by
  refine ⟨fun i j hij h => has_mono hops hij h, ?_, ?_, fun i j status h => h.find?_later hops, ?_⟩
  · intro n r r' hr hr' hne
    rcases redrafts_or_reviewedAt hops n id with (heq | ⟨hdraft, r'', hr'', hdraft'⟩) | ⟨status, h⟩
    · rw [heq, hr] at hr'
      cases hr'
      exact absurd rfl hne
    · rw [hr'] at hr''
      cases hr''
      exact absurd (hdraft'.trans (hdraft r hr).symm) hne
    · obtain ⟨old, hold, hdraft, hstatus, hnew⟩ := h.find?
      rw [hr] at hold
      cases hold
      rw [hr'] at hnew
      cases hnew
      refine ⟨hdraft, ?_, h⟩
      cases status with
      | draft => exact absurd rfl hstatus
      | approved => exact Or.inl rfl
      | rejected => exact Or.inr rfl
  · intro i j status status' hi hj
    have hij := hi.not_again hops hj
    have hji := hj.not_again hops hi
    omega
  · intro n
    rw [← approved_iff hops]
    refine exists_congr fun r => and_congr_right fun hr => ?_
    exact (coherent_storeAt ops n).view_mem_active_iff hr

/-- A draft for the removed token `<a>`. -/
def sampleDraft : MinedRule where
  id := "auto-a-1.0"
  token := "<a>"
  category := .removed
  pattern := "<a>"
  description := "'<a>' was removed in release 1.0."
  severity := .error
  fix := none
  correction := none
  release := "1.0"
  status := .draft
  madeAt := ⟨⟨2024, 1, 1, 0, 0, 0, 0⟩, by decide⟩

/-- The draft is submitted and approved; then it is submitted with another description, and
rejected, and a catalogue is loaded. -/
def sampleReviews : List Op :=
  [.submit sampleDraft, .setStatus "auto-a-1.0" .approved,
    .submit { sampleDraft with description := "'<a>' is gone." },
    .setStatus "auto-a-1.0" .rejected, .load [] []]

lemma find?_sampleDraft :
    (empty.after (.submit sampleDraft)).mined.find? "auto-a-1.0" = some sampleDraft := by
  have hsome : (Regex.compile "<a>").isSome = true := by cbv
  obtain ⟨x, hx⟩ := Option.isSome_iff_exists.mp hsome
  have hsubmit : empty.submit sampleDraft
      = .ok (.inserted, (empty.putMined sampleDraft x).refresh) :=
    submit_eq_ok_iff.mpr ⟨x, ⟨by decide, rfl, hx, rfl, rfl⟩, rfl, rfl⟩
  rw [after_submit_of_ok hsubmit]
  exact Keyed.find?_insert_self _ _ _

lemma reviewedAt_sampleReviews : ReviewedAt sampleReviews 1 "auto-a-1.0" .approved := by
  have hop : sampleReviews[0]? = some (.submit sampleDraft) := rfl
  refine ⟨rfl, _, setStatus_eq_ok_iff.mpr ⟨sampleDraft, ?_, rfl, by decide, rfl, rfl⟩⟩
  rw [storeAt_succ_of_some hop, storeAt_zero]
  exact find?_sampleDraft

/-- At the end of the sample run the rule is the one that was approved. -/
theorem sampleDraft_stays_approved :
    (∀ op ∈ sampleReviews, op.isRestore = false) ∧
    ∃ r, (storeAt sampleReviews 2).mined.find? "auto-a-1.0" = some r ∧ r.status = .approved ∧
      (storeAt sampleReviews 5).mined.find? "auto-a-1.0" = some r := by
  have hops : ∀ op ∈ sampleReviews, op.isRestore = false := by
    simp [sampleReviews, Op.isRestore]
  refine ⟨hops, ?_⟩
  exact (review_is_final sampleReviews hops "auto-a-1.0").2.2.2.1 1 5 .approved
    reviewedAt_sampleReviews (by decide)

end Store
end Deprecation
