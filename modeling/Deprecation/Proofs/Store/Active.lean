/-
# Rules that no review has approved are inert

Submissions and ingestions rewrite the mined rules and the table of compiled patterns, which
serves drafts and active rules alike, and each of them makes the active list anew.  Still checks
cannot tell: what is submitted is a draft and takes the place of nothing but a draft, so the
approved rules stay the ones they were, and with them the active list and every result.  The
same holds of a review that does not approve.

A review that approves puts the one rule into the active list, behind the static rules and
between the approved rules that are older and those that are younger, and touches no other
place of it.  So of any text the findings of all other rules stay, in their order.
-/
import Mathlib
import Deprecation.Check
import Deprecation.Proofs.Store.Review

namespace Deprecation
namespace Store

variable {s t : Store}

namespace Op

/-- Operations on mined rules leave the catalogue alone. -/
def isMining : Op → Bool
  | submit _ | setStatus _ _ | ingest .. | ingestDocument .. => true
  | _ => false

/-- Operations on mined rules other than the review that approves one. -/
def leavesUnapproved : Op → Bool
  | setStatus _ status => status ≠ .approved
  | op => op.isMining

lemma isMining_of_leavesUnapproved {op : Op} (h : op.leavesUnapproved = true) :
    op.isMining = true := by
  cases op with
  | setStatus => rfl
  | _ => exact h

end Op

/-! ## The catalogue stays -/

lemma statics_entries_submit (s : Store) (r : MinedRule) :
    (s.after (.submit r)).statics = s.statics ∧ (s.after (.submit r)).entries = s.entries := by
  rcases s.after_submit_eq_self_or r with heq | ⟨o, ho⟩
  · rw [heq]
    exact ⟨rfl, rfl⟩
  · obtain ⟨y, -, -, heq⟩ := submit_eq_ok_iff.mp ho
    rw [heq]
    split
    · exact ⟨rfl, rfl⟩
    · exact ⟨rfl, rfl⟩

/-- Neither the static rules nor the entries change in an operation on mined rules. -/
theorem statics_entries_after (s : Store) {op : Op} (hop : op.isMining = true) :
    (s.after op).statics = s.statics ∧ (s.after op).entries = s.entries := by
  have hsubmit : ∀ (t : Store) (r : MinedRule),
      t.statics = s.statics ∧ t.entries = s.entries →
      (t.after (.submit r)).statics = s.statics ∧ (t.after (.submit r)).entries = s.entries := by
    intro t r h
    obtain ⟨hstatics, hentries⟩ := statics_entries_submit t r
    exact ⟨hstatics.trans h.1, hentries.trans h.2⟩
  cases op with
  | submit r => exact statics_entries_submit s r
  | ingest z text version clock =>
    exact Ingest.keeps_ingest (fun t r _ => hsubmit t r) ⟨rfl, rfl⟩ z text version clock
  | ingestDocument z text clock =>
    exact Ingest.keeps_ingestDocument (fun t r _ => hsubmit t r) ⟨rfl, rfl⟩ z text clock
  | setStatus id status =>
    rcases s.after_setStatus_eq_self_or id status with heq | ⟨r, hr⟩
    · rw [heq]
      exact ⟨rfl, rfl⟩
    · obtain ⟨-, -, -, -, -, heq⟩ := setStatus_eq_ok_iff.mp hr
      rw [heq]
      exact ⟨rfl, rfl⟩
  | load | addEntries | restore => cases hop

/-! ## The approved rules stay -/

lemma find?_approved_iff (s : Store) {op : Op} (hop : op.leavesUnapproved = true) {id : String}
    {r : MinedRule} (hr : r.status = .approved) :
    (s.after op).mined.find? id = some r ↔ s.mined.find? id = some r := by
  have hrestore : op.isRestore = false := by
    cases op with
    | restore => cases hop
    | _ => rfl
  rcases s.redrafts_or_reviews hrestore id with h | ⟨status, hreview⟩
  · exact h.final_iff (by simp [hr])
  · obtain ⟨old, hold, hdraft, -, hnew⟩ := hreview.find?
    obtain ⟨rfl, -⟩ := hreview
    have hstatus : status ≠ .approved := by simpa [Op.leavesUnapproved] using hop
    rw [hnew, hold]
    constructor
    · intro h
      cases h
      exact absurd hr hstatus
    · intro h
      cases h
      rw [hr] at hdraft
      cases hdraft

lemma Coherent.mem_approved_iff (h : s.Coherent) {r : MinedRule} :
    r ∈ s.approved ↔ s.mined.find? r.id = some r ∧ r.status = .approved := by
  rw [mem_approved, h.consistent.mined_own.mem_values_iff]

theorem Coherent.approved_after (h : s.Coherent) {op : Op} (hop : op.leavesUnapproved = true) :
    (s.after op).approved = s.approved := by
  refine MinedRule.eq_of_pairwise_precedes (h.after op).consistent.pairwise_approved
    h.consistent.pairwise_approved fun r => ?_
  rw [(h.after op).mem_approved_iff, h.mem_approved_iff]
  constructor
  · rintro ⟨hfind, hr⟩
    exact ⟨(find?_approved_iff s hop hr).mp hfind, hr⟩
  · rintro ⟨hfind, hr⟩
    exact ⟨(find?_approved_iff s hop hr).mpr hfind, hr⟩

/-- What a check finds depends on the active list and on the entries. -/
lemma check_congr (hactive : t.active = s.active) (hentries : t.entries = s.entries)
    (text : String) : t.check text = s.check text := by
  rw [check, check, hactive, hentries]

theorem Coherent.active_after (h : s.Coherent) {op : Op} (hop : op.leavesUnapproved = true) :
    (s.after op).active = s.active := by
  have hstatics := (s.statics_entries_after (Op.isMining_of_leavesUnapproved hop)).1
  have hviews : s.activeViews = (s.after op).activeViews := by
    rw [activeViews, activeViews, hstatics, h.approved_after hop]
  refine (h.after op).active_eq_of_activates ?_
  rw [← hviews]
  exact h.forall₂_active

/-! ## A rule is approved -/

/-- One store differs from another by a rule that is active in it: the rule stands behind all
static rules and between the approved rules older and younger than it. -/
def Joins (r : MinedRule) (s t : Store) : Prop :=
  ∃ older younger front back x,
    s.approved = older ++ younger ∧ t.approved = older ++ r :: younger ∧
    (∀ o ∈ older, o.Precedes r) ∧ (∀ y ∈ younger, r.Precedes y) ∧
    front.map ActiveRule.rule = s.statics.map StaticRule.view ++ older.map MinedRule.view ∧
    back.map ActiveRule.rule = younger.map MinedRule.view ∧
    Regex.compile r.pattern = some x ∧
    s.active = front ++ back ∧ t.active = front ++ ⟨r.view, x⟩ :: back

section Approve

variable {id : String} {r : MinedRule}

/-- An approval makes the one rule approved, and no other. -/
lemma mem_approved_of_approve (h : s.Coherent) (ht : s.setStatus id .approved = .ok (r, t)) :
    r ∉ s.approved ∧ ∀ r', r' ∈ t.approved ↔ r' = r ∨ r' ∈ s.approved := by
  have htcoherent := h.of_setStatus ht
  obtain ⟨old, hold, hdraft, -, rfl, rfl⟩ := setStatus_eq_ok_iff.mp ht
  have hid : old.id = id := h.consistent.mined_own id old hold
  subst hid
  have hnot : ∀ r', r'.id = old.id → r' ∉ s.approved := by
    intro r' hid hr'
    obtain ⟨hfind, hstatus⟩ := h.mem_approved_iff.mp hr'
    rw [hid, hold] at hfind
    cases hfind
    rw [hdraft] at hstatus
    cases hstatus
  refine ⟨hnot _ rfl, fun r' => ?_⟩
  rw [htcoherent.mem_approved_iff, mined_refresh, Keyed.find?_insert]
  by_cases hid : r'.id = old.id
  · rw [if_pos hid]
    constructor
    · rintro ⟨hfind, -⟩
      exact Or.inl (Option.some.inj hfind).symm
    · rintro (rfl | hr')
      · exact ⟨rfl, rfl⟩
      · exact absurd hr' (hnot r' hid)
  · rw [if_neg hid, ← h.mem_approved_iff]
    constructor
    · exact Or.inr
    · rintro (rfl | hr')
      · exact absurd rfl hid
      · exact hr'

/-- An approved rule takes its place by age. -/
lemma approved_of_approve (h : s.Coherent) (ht : s.setStatus id .approved = .ok (r, t)) :
    ∃ older younger, s.approved = older ++ younger ∧ t.approved = older ++ r :: younger ∧
      (∀ o ∈ older, o.Precedes r) ∧ ∀ y ∈ younger, r.Precedes y := by
  have htcoherent := h.of_setStatus ht
  obtain ⟨hnew, hmem⟩ := mem_approved_of_approve h ht
  obtain ⟨older, younger, hsplit⟩ := List.append_of_mem ((hmem r).mpr (Or.inl rfl))
  have hsorted := htcoherent.consistent.pairwise_approved
  rw [hsplit] at hsorted hmem
  obtain ⟨-, hyounger, hacross⟩ := List.pairwise_append.mp hsorted
  have holder : ∀ o ∈ older, o.Precedes r := fun o ho => hacross o ho r List.mem_cons_self
  have hyounger : ∀ y ∈ younger, r.Precedes y := (List.pairwise_cons.mp hyounger).1
  refine ⟨older, younger, ?_, hsplit, holder, hyounger⟩
  -- without the rule, the list has the members of the old one in the same order
  have hsub : (older ++ younger).Sublist (older ++ r :: younger) :=
    List.Sublist.append_left (List.sublist_cons_self r younger) older
  refine MinedRule.eq_of_pairwise_precedes h.consistent.pairwise_approved (hsorted.sublist hsub)
    fun r' => ?_
  constructor
  · intro hr'
    have hne : r' ≠ r := fun heq => hnew (heq ▸ hr')
    have hin := (hmem r').mpr (Or.inr hr')
    rw [List.mem_append, List.mem_cons] at hin
    rw [List.mem_append]
    exact hin.imp_right fun hin => hin.resolve_left hne
  · intro hr'
    refine ((hmem r').mp (hsub.subset hr')).resolve_left ?_
    rintro rfl
    rcases List.mem_append.mp hr' with hin | hin
    · exact MinedRule.Precedes.irrefl r' (holder r' hin)
    · exact MinedRule.Precedes.irrefl r' (hyounger r' hin)

theorem joins_of_approve (h : s.Coherent) (ht : s.setStatus id .approved = .ok (r, t)) :
    Joins r s t := by
  have htcoherent := h.of_setStatus ht
  obtain ⟨older, younger, hs, ht', holder, hyounger⟩ := approved_of_approve h ht
  have hstatics : t.statics = s.statics := by
    rw [← after_setStatus_of_ok ht]
    exact (s.statics_entries_after rfl).1
  obtain ⟨hshown, hown⟩ := forall₂_activates_iff.mp htcoherent.forall₂_active
  rw [activeViews, hstatics, ht', List.map_append, List.map_cons, ← List.append_assoc] at hshown
  obtain ⟨front, rest, hsplit, hfront, hrest⟩ := List.map_eq_append_iff.mp hshown
  obtain ⟨⟨rule, x⟩, back, rfl, rfl, hback⟩ := List.map_eq_cons_iff.mp hrest
  rw [hsplit] at hown
  refine ⟨older, younger, front, back, x, hs, ht', holder, hyounger, hfront, hback, ?_, ?_,
    hsplit⟩
  · exact hown ⟨r.view, x⟩ (by simp)
  · refine h.active_eq_of_activates (forall₂_activates_iff.mpr ⟨?_, fun a ha => hown a ?_⟩)
    · rw [activeViews, hs, List.map_append, List.map_append, hfront, hback, List.append_assoc]
    · rcases List.mem_append.mp ha with ha | ha
      · exact List.mem_append_left _ ha
      · exact List.mem_append_right _ (List.mem_cons_of_mem _ ha)

/-! ## What is found of the other rules -/

lemma ruleId_of_mem_findings {a : ActiveRule} {entries : Keyed Entry} {text : List Char}
    {lines : Text.LineIndex} {f : Finding} (hf : f ∈ a.findings entries text lines) :
    f.ruleId = a.rule.id := by
  obtain ⟨m, -, rfl⟩ := List.mem_map.mp hf
  rfl

/-- No active rule has the id of a draft. -/
lemma Coherent.id_ne_of_mem_active (h : s.Coherent) {old : MinedRule}
    (hold : s.mined.find? id = some old) (hdraft : old.status = .draft) {a : ActiveRule}
    (ha : a ∈ s.active) : a.rule.id ≠ id := by
  intro hid
  have hshown : a.rule ∈ s.activeViews := by
    rw [← h.map_rule_active]
    exact List.mem_map.mpr ⟨a, ha, rfl⟩
  rcases List.mem_append.mp hshown with hmem | hmem
  · obtain ⟨r', hr', heq⟩ := List.mem_map.mp hmem
    have hstatic := isStatic_eq_false_iff.mp (h.consistent.not_static hold) r' hr'
    exact hstatic ((congrArg Rule.id heq).trans hid)
  · obtain ⟨r', hr', heq⟩ := List.mem_map.mp hmem
    obtain ⟨hfind, hstatus⟩ := h.mem_approved_iff.mp hr'
    have hid' : r'.id = id := (congrArg Rule.id heq).trans hid
    rw [hid', hold] at hfind
    cases hfind
    rw [hdraft] at hstatus
    cases hstatus

/-- An approval adds the findings of the one rule. -/
theorem findings_of_approve (h : s.Coherent) (ht : s.setStatus id .approved = .ok (r, t))
    (text : String) :
    ∃ first own last, (s.check text).findings = first ++ last ∧
      (t.check text).findings = first ++ own ++ last ∧ (∀ f ∈ own, f.ruleId = id) ∧
      ∀ f ∈ first ++ last, f.ruleId ≠ id := by
  have hid : r.id = id := by
    obtain ⟨old, hold, -, -, rfl, -⟩ := setStatus_eq_ok_iff.mp ht
    exact h.consistent.mined_own id old hold
  have hothers : ∀ a ∈ s.active, a.rule.id ≠ id := by
    obtain ⟨old, hold, hdraft, -⟩ := setStatus_eq_ok_iff.mp ht
    exact fun a ha => h.id_ne_of_mem_active hold hdraft ha
  have hentries : t.entries = s.entries := by
    rw [← after_setStatus_of_ok ht]
    exact (s.statics_entries_after rfl).2
  obtain ⟨-, -, front, back, x, -, -, -, -, -, -, -, hs, ht'⟩ := joins_of_approve h ht
  let found := fun a : ActiveRule =>
    a.findings s.entries text.toList (Text.LineIndex.ofChars text.toList)
  refine ⟨front.flatMap found, found ⟨r.view, x⟩, back.flatMap found, ?_, ?_, ?_, ?_⟩
  · rw [check, CheckResult.findings_ofFindings, hs, List.flatMap_append]
  · rw [check, CheckResult.findings_ofFindings, hentries, ht', List.flatMap_append,
      List.flatMap_cons, List.append_assoc]
  · intro f hf
    rw [ruleId_of_mem_findings hf]
    exact hid
  · intro f hf
    rw [← List.flatMap_append, ← hs] at hf
    obtain ⟨a, ha, hfa⟩ := List.mem_flatMap.mp hf
    rw [ruleId_of_mem_findings hfa]
    exact hothers a ha

end Approve

/-- **Rules that no review has approved are inert.**  After any run: a submission, an ingestion
or a review that does not approve, whatever comes of it, leaves the active list as it is, and
with it the result of checking any text.  A review that approves puts the one rule into the
active list, behind the static rules and at its place by age among the approved ones, and so
the findings of all other rules stay, in their order. -/
theorem unapproved_rules_are_inert (ops : List Op) :
    let s := empty.run ops
    (∀ op : Op, op.leavesUnapproved = true →
      (s.after op).active = s.active ∧ ∀ text, (s.after op).check text = s.check text) ∧
    ∀ id r t, s.setStatus id .approved = .ok (r, t) →
      r.id = id ∧ Joins r s t ∧
      ∀ text, ∃ first own last, (s.check text).findings = first ++ last ∧
        (t.check text).findings = first ++ own ++ last ∧ (∀ f ∈ own, f.ruleId = id) ∧
        ∀ f ∈ first ++ last, f.ruleId ≠ id := by
  intro s
  have h : s.Coherent := coherent_run ops
  refine ⟨?_, ?_⟩
  · intro op hop
    have hactive := h.active_after hop
    have hentries := (s.statics_entries_after (Op.isMining_of_leavesUnapproved hop)).2
    exact ⟨hactive, fun text => check_congr hactive hentries text⟩
  · intro id r t ht
    obtain ⟨old, hold, -, -, rfl, -⟩ := setStatus_eq_ok_iff.mp ht
    exact ⟨h.consistent.mined_own id old hold, joins_of_approve h ht,
      fun text => findings_of_approve h ht text⟩

/-- The sample draft is not active, and joins the active list when it is approved. -/
theorem sampleDraft_joins :
    let s := empty.after (.submit sampleDraft)
    (Op.submit sampleDraft).leavesUnapproved = true ∧ s.active = [] ∧
    ∃ r t, s.setStatus "auto-a-1.0" .approved = .ok (r, t) ∧ Joins r s t := by
  intro s
  obtain ⟨hinert, -⟩ := unapproved_rules_are_inert []
  obtain ⟨-, hjoins⟩ := unapproved_rules_are_inert [.submit sampleDraft]
  have happroved : s.setStatus "auto-a-1.0" .approved = .ok _ :=
    setStatus_eq_ok_iff.mpr ⟨sampleDraft, find?_sampleDraft, rfl, by decide, rfl, rfl⟩
  exact ⟨rfl, (hinert (.submit sampleDraft) rfl).1, _, _, happroved, (hjoins _ _ _ happroved).2.1⟩

end Store
end Deprecation
