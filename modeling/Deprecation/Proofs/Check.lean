/-
# What a check finds

A store checks a text with what it keeps beside its rules: a list of active rules with compiled
patterns, a table of entries, and a line index that is bisected.  None of this can be seen in
the result.  This file says what a check has to find by the contents of the store alone, which
are its rules and entries as they are written down, and shows that this fixes the result and
that the store gives it.

The rules are gone through in order, first the static ones as declared and then the approved
ones by age.  Each gives one finding for every match of its own pattern, in the order of the
text.  A match does not have to be unlike those of other rules, and it may be empty.
-/
import Mathlib
import Deprecation.Proofs.Regex.Spans
import Deprecation.Proofs.Store.Coherence
import Deprecation.Proofs.Text.LineIndex

namespace Deprecation

open Text (LineIndex newlinesBefore lineOf_eq_newlinesBefore)

/-! ## One rule -/

/-- A finding says what a rule and a match of it in a text call for. -/
structure Finding.Reports (entries : List Entry) (text : String) (r : Rule) (m : Regex.Span)
    (f : Finding) : Prop where
  ruleId : f.ruleId = r.id
  severity : f.severity = r.severity
  description : f.description = r.description
  fix : f.fix = r.fix
  correctionId : f.correctionId = r.correction
  matched : f.matched.toList = m.text text.toList
  /-- The line is counted by the newline bytes in front of the match. -/
  line : f.line = 1 + newlinesBefore text (m.bytes text.toList).1
  absent : f.correction = none ↔ f.correctionId = none
  resolved : ∀ e ∈ entries, f.correctionId = some e.id → f.correction = some (.resolved e.title)
  unresolved : ∀ id, f.correctionId = some id → (∀ e ∈ entries, e.id ≠ id) →
    f.correction = some .unresolved

/-- A rule has these findings in a text: one for each match of its own pattern, and the matches
lie in the text, come in its order, and do not overlap. -/
def Rule.Finds (entries : List Entry) (text : String) (r : Rule) (findings : List Finding) :
    Prop :=
  ∃ x, Regex.compile r.pattern = some x ∧
    (∀ m ∈ x.spans text.toList, m.start ≤ m.stop ∧ m.stop ≤ text.toList.length) ∧
    (x.spans text.toList).Pairwise Regex.Span.Before ∧
    List.Forall₂ (Finding.Reports entries text r) (x.spans text.toList) findings

section Rule

variable {entries : List Entry} {text : String} {r : Rule}

lemma Finding.Reports.unique {m : Regex.Span} {f g : Finding} (hf : f.Reports entries text r m)
    (hg : g.Reports entries text r m) : f = g := by
  have hid : g.correctionId = f.correctionId := by rw [hf.correctionId, hg.correctionId]
  have hcorrection : f.correction = g.correction := by
    cases hc : f.correctionId with
    | none => rw [hf.absent.mpr hc, hg.absent.mpr (hid.trans hc)]
    | some id =>
      by_cases hentry : ∃ e ∈ entries, e.id = id
      · obtain ⟨e, he, rfl⟩ := hentry
        rw [hf.resolved e he hc, hg.resolved e he (hid.trans hc)]
      · have hnone : ∀ e ∈ entries, e.id ≠ id := fun e he heq => hentry ⟨e, he, heq⟩
        rw [hf.unresolved id hc hnone, hg.unresolved id (hid.trans hc) hnone]
  have hmatched : f.matched = g.matched := by
    rw [← String.toList_inj, hf.matched, hg.matched]
  cases f
  cases g
  obtain ⟨rfl, rfl, rfl, rfl, rfl, -, rfl, -, -, -⟩ := hf
  obtain ⟨rfl, rfl, rfl, rfl, rfl, -, rfl, -, -, -⟩ := hg
  subst hmatched hcorrection
  rfl

lemma Rule.Finds.unique {fs gs : List Finding} (hf : r.Finds entries text fs)
    (hg : r.Finds entries text gs) : fs = gs := by
  obtain ⟨x, hx, -, -, hfs⟩ := hf
  obtain ⟨y, hy, -, -, hgs⟩ := hg
  rw [hx] at hy
  cases hy
  exact List.right_unique_forall₂' (fun _ _ _ h h' => h.unique h') hfs hgs

/-- The finding that is made for a match reports it. -/
lemma reports_ofSpan {known : Keyed Entry} (hknown : Keyed.Own Entry.id known)
    (m : Regex.Span) :
    (Finding.ofSpan known text.toList (LineIndex.ofChars text.toList) r m).Reports known.values
      text r m := by
  refine ⟨rfl, rfl, rfl, rfl, rfl, String.toList_ofList, ?_, ?_, ?_, ?_⟩
  · exact lineOf_eq_newlinesBefore text m.start
  · exact Option.map_eq_none_iff
  · intro e he hid
    have hcorrection : r.correction = some e.id := hid
    have hfound := hknown.mem_values_iff.mp he
    show r.correction.map (fun c => Correction.ofEntry (known.find? c)) = _
    rw [hcorrection, Option.map_some, hfound]
    rfl
  · intro id hid hnone
    have hcorrection : r.correction = some id := hid
    have hfound : known.find? id = none := by
      cases hfind : known.find? id with
      | none => rfl
      | some e =>
        have hmem : e ∈ known.values := Keyed.mem_values_iff.mpr ⟨id, hfind⟩
        exact absurd (hknown id e hfind) (hnone e hmem)
    show r.correction.map (fun c => Correction.ofEntry (known.find? c)) = _
    rw [hcorrection, Option.map_some, hfound]
    rfl

/-- An active rule finds what the rule that it shows finds. -/
lemma finds_findings {known : Keyed Entry} (hknown : Keyed.Own Entry.id known)
    {a : ActiveRule} (ha : Store.Activates r a) :
    r.Finds known.values text
      (a.findings known text.toList (LineIndex.ofChars text.toList)) := by
  obtain ⟨rfl, hx⟩ := ha
  refine ⟨a.regex, hx, fun m hm => Regex.within_of_mem_spans hm, Regex.pairwise_spans _ _, ?_⟩
  rw [ActiveRule.findings, List.forall₂_map_right_iff]
  exact List.forall₂_same.mpr fun m _ => reports_ofSpan hknown m

end Rule

/-! ## All rules -/

/-- What a check of a text has to give for a store with these contents. -/
def Contents.Checks (c : Contents) (text : String) (result : CheckResult) : Prop :=
  ∃ (approved : List MinedRule) (found : List (List Finding)),
    (∀ r, r ∈ approved ↔ r ∈ c.mined ∧ r.status = .approved) ∧
    approved.Pairwise MinedRule.Precedes ∧
    List.Forall₂ (Rule.Finds c.entries text)
      (c.statics.map StaticRule.view ++ approved.map MinedRule.view) found ∧
    result.findings = found.flatten ∧
    (result.blocking = true ↔ ∃ f ∈ result.findings, f.severity = .error)

/-- Contents leave no choice of the result. -/
lemma Contents.Checks.unique {c : Contents} {text : String} {result result' : CheckResult}
    (h : c.Checks text result) (h' : c.Checks text result') : result = result' := by
  obtain ⟨approved, found, hmem, hsorted, hfound, hfindings, hblocking⟩ := h
  obtain ⟨approved', found', hmem', hsorted', hfound', hfindings', hblocking'⟩ := h'
  have happroved : approved = approved' := by
    refine MinedRule.eq_of_pairwise_precedes hsorted hsorted' fun r => ?_
    rw [hmem, hmem']
  subst happroved
  have hsame : found = found' :=
    List.right_unique_forall₂' (fun _ _ _ h h' => h.unique h') hfound hfound'
  subst hsame
  have hlist : result.findings = result'.findings := hfindings.trans hfindings'.symm
  rw [hlist, ← hblocking', Bool.coe_iff_coe] at hblocking
  cases result
  cases result'
  subst hlist hblocking
  rfl

namespace Store

lemma Coherent.checks_check {s : Store} (h : s.Coherent) (text : String) :
    s.contents.Checks text (s.check text) := by
  refine ⟨s.approved,
    s.active.map fun a => a.findings s.entries text.toList (LineIndex.ofChars text.toList),
    fun r => mem_approved, h.consistent.pairwise_approved, ?_, ?_, ?_⟩
  · rw [List.forall₂_map_right_iff]
    exact h.forall₂_active.imp fun r a ha => finds_findings h.consistent.entries_own ha
  · rw [check, CheckResult.findings_ofFindings, List.flatMap_def]
  · rw [check, CheckResult.blocking_ofFindings, CheckResult.findings_ofFindings, List.any_eq_true]
    simp [Finding.isError]

/-- **A check finds what the rules and entries call for, and nothing else.**  After any run of
operations and for any text, the result of a check is the one that the contents of the store
call for: the findings of the static rules as declared and then of the approved rules by age,
for each rule one finding per match of its own pattern in the order of the text, with the line
counted by the newlines in front of the match and the correction looked up among the entries;
and it blocks just when one of the findings is an error. -/
theorem check_eq_iff (ops : List Op) (text : String) (result : CheckResult) :
    (empty.run ops).check text = result ↔ (empty.run ops).contents.Checks text result := by
  have hchecks := (coherent_run ops).checks_check text
  constructor
  · rintro rfl
    exact hchecks
  · intro h
    exact hchecks.unique h

end Store
end Deprecation
