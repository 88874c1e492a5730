/-
# Version labels

The label of a release heading is made of digits, and perhaps of dots and a tag.  None of these
is a blank, so trimming a label leaves it as it is; and there is at least one digit, so no label
is empty.
-/
import Mathlib
import Deprecation.Changelog.Document
import Deprecation.Proofs.Text.Trim

namespace Deprecation.Changelog

open Text

/-- A character that can stand in a version label. -/
def isLabelChar (c : Char) : Bool :=
  isDigit c || isTagChar c

lemma isBlank_of_isLabelChar {c : Char} (h : isLabelChar c = true) : isBlank c = false := by
  have hall : (blanks.all fun b => !isTagChar b) = true := by cbv
  rcases Bool.or_eq_true_iff.mp h with hdigit | htag
  · exact isBlank_of_isDigit hdigit
  · by_contra hblank
    simpa [htag] using List.all_eq_true.mp hall c (mem_blanks (Bool.not_eq_false _ ▸ hblank))

/-! ## The parts of a label -/

lemma all_of_takeDigits {s d rest : List Char} (h : takeDigits s = some (d, rest)) :
    d.all isLabelChar = true := by
  rw [takeDigits] at h
  split at h
  · cases h
  · cases h
    refine List.all_eq_true.mpr fun c hc => ?_
    rw [isLabelChar, List.mem_takeWhile_imp hc, Bool.true_or]

lemma all_takeDottedDigits (s : List Char) :
    (takeDottedDigits s).1.all isLabelChar = true := by
  induction s using takeDottedDigits.induct with
  | case1 rest digits rest' hdigits hlength more rest'' hmore ih =>
    have hdot : isLabelChar '.' = true := by decide
    rw [takeDottedDigits]
    split
    · next hdigits' =>
      rw [hdigits] at hdigits'
      cases hdigits'
      rw [List.all_append, List.all_cons, hdot, all_of_takeDigits hdigits, ih]
      rfl
    · next hnone =>
      rw [hdigits] at hnone
      cases hnone
  | case2 rest hnone =>
    rw [takeDottedDigits]
    split
    · next hsome =>
      rw [hnone] at hsome
      cases hsome
    · rfl
  | case3 s hs =>
    rw [takeDottedDigits]
    · rfl
    · exact hs

lemma all_takeTag (s : List Char) : (takeTag s).1.all isLabelChar = true := by
  fun_cases takeTag s with
  | case1 rest tag hempty => rfl
  | case2 rest tag hempty =>
    have hdash : isLabelChar '-' = true := by decide
    rw [List.all_cons, hdash, Bool.true_and]
    refine List.all_eq_true.mpr fun c hc => ?_
    rw [isLabelChar, List.mem_takeWhile_imp hc, Bool.or_true]
  | case3 hs => rfl

lemma all_of_takeVersion {s v rest : List Char} (h : takeVersion s = some (v, rest)) :
    v.all isLabelChar = true := by
  obtain ⟨⟨major, s'⟩, hmajor, h⟩ := Option.bind_eq_some_iff.mp h
  simp only [Option.pure_def, Option.some.injEq, Prod.mk.injEq] at h
  rw [← h.1, List.all_append, List.all_append, all_of_takeDigits hmajor, all_takeDottedDigits,
    all_takeTag]
  rfl

lemma ne_nil_of_takeVersion {s v rest : List Char} (h : takeVersion s = some (v, rest)) :
    v ≠ [] := by
  obtain ⟨⟨major, s'⟩, hmajor, h⟩ := Option.bind_eq_some_iff.mp h
  simp only [Option.pure_def, Option.some.injEq, Prod.mk.injEq] at h
  rw [takeDigits] at hmajor
  split at hmajor
  · cases hmajor
  next hdigits =>
    cases hmajor
    rw [← h.1]
    simp only [List.append_assoc]
    exact List.append_ne_nil_of_left_ne_nil (mt List.isEmpty_iff.mpr hdigits) _

/-- The label of a heading is a version label that was read off it. -/
lemma takeVersion_of_headingVersion {line v : List Char} (h : headingVersion line = some v) :
    ∃ s rest, takeVersion s = some (v, rest) := by
  rw [headingVersion] at h
  dsimp only at h
  split at h
  · cases h
  · obtain ⟨s, -, h⟩ := Option.bind_eq_some_iff.mp h
    obtain ⟨⟨v', s'⟩, hversion, h⟩ := Option.bind_eq_some_iff.mp h
    obtain ⟨s'', -, h⟩ := Option.bind_eq_some_iff.mp h
    dsimp only at h
    split at h
    · cases h
      exact ⟨_, _, hversion⟩
    · cases h

/-! ## Labels of sections -/

lemma headingVersion_of_mem_divide {ls : List (List Char)} {x : Section}
    (h : x ∈ (divide ls).2) : ∃ line ∈ ls, headingVersion line = some x.version.toList := by
  induction ls with
  | nil => cases h
  | cons line ls ih =>
    rw [divide_cons, consLine] at h
    split at h
    · next v hv =>
      rcases List.mem_cons.mp h with rfl | h
      · exact ⟨line, List.mem_cons_self, by rw [hv, String.toList_ofList]⟩
      · obtain ⟨line', hline', heq⟩ := ih h
        exact ⟨line', List.mem_cons_of_mem line hline', heq⟩
    · obtain ⟨line', hline', heq⟩ := ih h
      exact ⟨line', List.mem_cons_of_mem line hline', heq⟩

/-- The version of a section is a version label that was read off a heading. -/
lemma takeVersion_of_mem_sections {text : String} {x : Section} (h : x ∈ sections text) :
    ∃ s rest, takeVersion s = some (x.version.toList, rest) := by
  obtain ⟨line, -, hline⟩ := headingVersion_of_mem_divide h
  exact takeVersion_of_headingVersion hline

/-- The version of a section is trimmed. -/
theorem trimmed_version {text : String} {x : Section} (h : x ∈ sections text) :
    trimmed x.version = x.version := by
  obtain ⟨s, rest, hversion⟩ := takeVersion_of_mem_sections h
  have hlabel := List.all_eq_true.mp (all_of_takeVersion hversion)
  rw [trimmed, trim_eq_self fun c hc => isBlank_of_isLabelChar (hlabel c hc),
    String.ofList_toList]

/-- The version of a section is not empty. -/
theorem isEmpty_version {text : String} {x : Section} (h : x ∈ sections text) :
    x.version.isEmpty = false := by
  obtain ⟨s, rest, hversion⟩ := takeVersion_of_mem_sections h
  rw [Bool.eq_false_iff, Ne, String.isEmpty_iff, ← String.toList_eq_nil_iff]
  exact ne_nil_of_takeVersion hversion

end Deprecation.Changelog
