/-
# Releases of mined rules

Every mined rule should name the release that it was mined from.  A submitted rule that names
none is refused, and nothing else inside a store makes a rule; but a snapshot is not asked
about the releases of its rules, so a rule without one can enter by being restored.  This file
shows that this is the only way: in a run every mined rule names its release at every time,
just when every snapshot that the run restores names the releases of all its rules.
-/
import Mathlib
import Deprecation.Proofs.Store.Acceptance
import Deprecation.Proofs.Store.Review

namespace Deprecation

/-- The release of a rule is not blank. -/
def MinedRule.NamesRelease (r : MinedRule) : Prop :=
  (Text.trimmed r.release).isEmpty = false

namespace Store

variable {s : Store}

/-- Every mined rule of a store names its release. -/
def NamesReleases (s : Store) : Prop :=
  ∀ id r, s.mined.find? id = some r → r.NamesRelease

/-- An operation that restores a snapshot with some contents, which the store accepts. -/
def Op.Restores (op : Op) (c : Contents) : Prop :=
  ∃ bytes x, op = .restore (.ok (some bytes)) ∧ Snapshot.decode bytes = .ok x ∧
    x.contents = c ∧ c.Usable

lemma namesReleases_empty : empty.NamesReleases := by
  intro id r h
  cases h

/-! ## One operation -/

/-- A submission that is accepted names its release. -/
lemma namesReleases_submit (s : Store) (r : MinedRule) (h : s.NamesReleases) :
    (s.after (.submit r)).NamesReleases := by
  rcases s.after_submit_eq_self_or r with heq | ⟨o, ho⟩
  · rwa [heq]
  · obtain ⟨x, hx, -, heq⟩ := submit_eq_ok_iff.mp ho
    rw [heq]
    split
    · exact h
    intro id r' hr'
    replace hr' : (s.mined.insert r.id r).find? id = some r' := hr'
    rw [Keyed.find?_insert] at hr'
    split at hr'
    · cases hr'
      exact hx.release
    · exact h id r' hr'

/-- A review leaves the release of the rule as it is. -/
lemma namesReleases_setStatus (h : s.NamesReleases) (id : String) (status : Status) :
    (s.after (.setStatus id status)).NamesReleases := by
  rcases s.after_setStatus_cases id status with heq | ⟨r, hr, -, -, hmined⟩
  · rwa [heq]
  · intro id' r' hr'
    rw [hmined, Keyed.find?_insert] at hr'
    split at hr'
    · cases hr'
      exact h id r hr
    · exact h id' r' hr'

/-- Restoring leaves the store as it is, or brings it the rules of some contents. -/
lemma after_restore_eq_self_or_describes (s : Store)
    (held : Except MediumError (Option ByteArray)) :
    s.after (.restore held) = s ∨
      ∃ c, (Op.restore held).Restores c ∧ c.Describes (s.after (.restore held)) := by
  by_cases h : ∃ t, s.restore held = .ok (true, t)
  · right
    obtain ⟨t, ht⟩ := h
    obtain ⟨bytes, x, rfl, hdecode, hx⟩ := restore_eq_true_iff.mp ht
    have heq : s.after (.restore (.ok (some bytes))) = t := by
      rw [after, attempt, ht]
      rfl
    refine ⟨x.contents, ⟨bytes, x, rfl, hdecode, rfl, exists_ofContents_iff.mp ⟨t, hx⟩⟩, ?_⟩
    rw [heq]
    exact describes_of_ofContents hx
  · exact Or.inl (after_restore_of_not h)

lemma describes_of_restores {op : Op} {c : Contents} (h : op.Restores c) (s : Store) :
    c.Describes (s.after op) := by
  obtain ⟨bytes, x, rfl, hdecode, rfl, husable⟩ := h
  obtain ⟨t, ht⟩ := exists_ofContents_iff.mpr husable
  have hrestore : s.restore (.ok (some bytes)) = .ok (true, t) :=
    restore_eq_true_iff.mpr ⟨bytes, x, rfl, hdecode, ht⟩
  rw [after, attempt, hrestore]
  exact describes_of_ofContents ht

/-- An operation keeps the releases named unless it restores a rule that names none. -/
theorem NamesReleases.after (h : s.NamesReleases) {op : Op}
    (hop : ∀ c, op.Restores c → ∀ r ∈ c.mined, r.NamesRelease) : (s.after op).NamesReleases := by
  cases op with
  | load rules entries =>
    intro id r hr
    rw [mined_after_load] at hr
    exact h id r hr
  | addEntries entries =>
    intro id r hr
    rw [after_addEntries, mined_addEntries] at hr
    exact h id r hr
  | submit r => exact namesReleases_submit s r h
  | setStatus id status => exact namesReleases_setStatus h id status
  | ingest z text version clock =>
    exact Ingest.keeps_ingest (fun t r _ => namesReleases_submit t r) h z text version clock
  | ingestDocument z text clock =>
    exact Ingest.keeps_ingestDocument (fun t r _ => namesReleases_submit t r) h z text clock
  | restore held =>
    rcases s.after_restore_eq_self_or_describes held with heq | ⟨c, hc, hdescribes⟩
    · rwa [heq]
    · intro id r hr
      exact hop c hc r ((hdescribes.mined id r).mp hr).1

/-! ## Every run -/

/-- **Mined rules name their releases unless a snapshot brings one that does not.**  At every
time of a run all mined rules name their releases, if and only if all rules of all snapshots
that the run restores do. -/
theorem mined_rules_name_releases_iff (ops : List Op) :
    (∀ n, (storeAt ops n).NamesReleases) ↔
      ∀ op ∈ ops, ∀ c, op.Restores c → ∀ r ∈ c.mined, r.NamesRelease := by
  constructor
  · intro h op hop c hc r hr
    obtain ⟨n, hn⟩ := List.mem_iff_getElem?.mp hop
    -- right after the operation the rule is in the store
    have hnamed := h (n + 1)
    rw [storeAt_succ_of_some hn] at hnamed
    exact hnamed r.id r (((describes_of_restores hc _).mined r.id r).mpr ⟨hr, rfl⟩)
  · intro h n
    induction n with
    | zero => exact namesReleases_empty
    | succ n ih =>
      cases hop : ops[n]? with
      | none => rwa [storeAt_succ_of_none hop]
      | some op =>
        rw [storeAt_succ_of_some hop]
        exact ih.after fun c hc => h op (List.mem_of_getElem? hop) c hc

/-- One draft, which names no release. -/
def unnamedContents : Contents := ⟨[], [{ sampleDraft with release := " " }], []⟩

/-- A snapshot of the draft is restored. -/
def unnamedRun : List Op :=
  [.restore (.ok (some (Snapshot.ofContents unnamedContents).encode))]

lemma restores_unnamedContents :
    (Op.restore (.ok (some (Snapshot.ofContents unnamedContents).encode))).Restores
      unnamedContents := by
  have hclock : unnamedContents.OnClock := ⟨by decide, by decide⟩
  refine ⟨_, _, rfl, Snapshot.decode_encode_of_onClock hclock, rfl, ?_, ?_⟩
  · exact List.nodup_singleton _
  · intro r hr
    rw [List.mem_singleton.mp hr]
    show (Regex.compile "<a>").isSome = true
    cbv

/-- The snapshot is accepted, and the store holds a rule that names no release. -/
theorem unnamedRun_brings_unnamed_rule : ¬ (empty.run unnamedRun).NamesReleases := by
  intro h
  rw [unnamedRun, run_cons, run_nil] at h
  have hdescribes := describes_of_restores restores_unnamedContents empty
  have hnamed : ({ sampleDraft with release := " " } : MinedRule).NamesRelease :=
    h "auto-a-1.0" _ ((hdescribes.mined _ _).mpr ⟨List.mem_singleton.mpr rfl, rfl⟩)
  have hblank : (Text.trimmed " ").isEmpty = true := by decide
  rw [MinedRule.NamesRelease, hblank] at hnamed
  cases hnamed

end Store
end Deprecation
