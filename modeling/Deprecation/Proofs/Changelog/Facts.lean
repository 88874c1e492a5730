/-
# The facts of a release

The records of a release have trimmed tokens and carry its trimmed version label, and no two
of them state one fact: a repetition is dropped where the text is read.  So each fact asks for
an id at most once while the records of a release are gone through.
-/
import Mathlib
import Deprecation.Changelog.Release
import Deprecation.Proofs.Synthesis

namespace Deprecation

open Text

namespace Record

lemma sublist_firstStatements (known l : List Record) : (firstStatements known l).Sublist l := by
  induction l generalizing known with
  | nil => exact List.Sublist.slnil
  | cons r rest ih =>
    rw [firstStatements]
    split
    · exact (ih known).cons r
    · exact (ih (r :: known)).cons_cons r

/-- What is kept is not known before. -/
lemma sameFact_of_mem_firstStatements {known l : List Record} {r s : Record}
    (hr : r ∈ firstStatements known l) (hs : s ∈ known) : r.sameFact s = false := by
  induction l generalizing known with
  | nil => cases hr
  | cons a rest ih =>
    rw [firstStatements] at hr
    split at hr
    · exact ih hr hs
    · next hknown =>
      rcases List.mem_cons.mp hr with rfl | hr
      · by_contra h
        exact hknown (List.any_eq_true.mpr ⟨s, hs, by simpa using h⟩)
      · exact ih hr (List.mem_cons_of_mem a hs)

theorem pairwise_firstStatements (known l : List Record) :
    (firstStatements known l).Pairwise fun r s => s.sameFact r = false := by
  induction l generalizing known with
  | nil => exact List.Pairwise.nil
  | cons a rest ih =>
    rw [firstStatements]
    split
    · exact ih known
    · refine List.pairwise_cons.mpr ⟨fun s hs => ?_, ih (a :: known)⟩
      exact sameFact_of_mem_firstStatements hs List.mem_cons_self

end Record

namespace Changelog

/-- A text that is left as it is when it is trimmed, and that is not blank. -/
def IsToken (s : String) : Prop := trimmed s = s ∧ s.isEmpty = false

/-- A token that is read off a line has been trimmed, and something was left. -/
lemma isToken_of_tokenOf {s : List Char} {token : String} (h : tokenOf s = some token) :
    IsToken token := by
  rw [tokenOf] at h
  split at h
  · cases h
  next hne =>
    cases h
    refine ⟨by rw [trimmed, String.toList_ofList, trim_trim], ?_⟩
    rw [Bool.eq_false_iff, Ne, String.isEmpty_iff, ← String.toList_eq_nil_iff,
      String.toList_ofList, ← List.isEmpty_iff]
    exact hne

lemma replacing_eq_some {category : Category} {release : String}
    {tokens : List Char × List Char} {r : Record}
    (h : replacing category release tokens = some r) :
    IsToken r.token ∧ r.release = release := by
  obtain ⟨old, hold, h⟩ := Option.bind_eq_some_iff.mp h
  obtain ⟨new, -, h⟩ := Option.bind_eq_some_iff.mp h
  cases h
  exact ⟨isToken_of_tokenOf hold, rfl⟩

lemma removing_eq_some {release : String} {token : List Char} {r : Record}
    (h : removing release token = some r) : IsToken r.token ∧ r.release = release := by
  obtain ⟨old, hold, h⟩ := Option.bind_eq_some_iff.mp h
  cases h
  exact ⟨isToken_of_tokenOf hold, rfl⟩

/-- Whichever template a line follows, its record has a token and carries the label of the
release. -/
lemma recordOf_eq_some {release : String} {line : List Char} {r : Record}
    (h : recordOf release line = some r) : IsToken r.token ∧ r.release = release := by
  simp only [recordOf, Option.orElse_eq_orElse, Option.orElse_eq_or, Option.or_eq_some_iff] at h
  rcases h with h | ⟨-, h | ⟨-, h⟩⟩
  · obtain ⟨tokens, -, h⟩ := Option.bind_eq_some_iff.mp h
    exact replacing_eq_some h
  · obtain ⟨token, -, h⟩ := Option.bind_eq_some_iff.mp h
    exact removing_eq_some h
  · obtain ⟨tokens, -, h⟩ := Option.bind_eq_some_iff.mp h
    exact replacing_eq_some h

variable {body release : String}

lemma of_mem_records {r : Record} (h : r ∈ records body release) :
    IsToken r.token ∧ r.release = trimmed release := by
  have hmem := (Record.sublist_firstStatements [] _).subset h
  obtain ⟨line, -, hline⟩ := List.mem_filterMap.mp hmem
  exact recordOf_eq_some hline

/-- The records of a release state different facts. -/
theorem pairwise_records (body release : String) :
    (records body release).Pairwise fun r s => s.fact ≠ r.fact := by
  refine (Record.pairwise_firstStatements [] (announcements body release)).imp_of_mem ?_
  intro r s hr hs hne heq
  rw [Record.fact, Record.fact, (of_mem_records hr).1.1, (of_mem_records hs).1.1,
    Holder.fact.injEq] at heq
  simp [Record.sameFact, heq] at hne

end Changelog
end Deprecation
