/-
# Trimming twice

Tokens and version labels are trimmed when a line is read, again when a rule is made of the
record, and once more when the rule is submitted.  A text that has been trimmed has no blank
at either end, so the second time changes nothing.  The version label of a heading has no blank
at all, since digits are no blanks.
-/
import Mathlib
import Deprecation.Text.Blank
import Deprecation.Text.Word

namespace Deprecation.Text

lemma trimStart_trimStart (s : List Char) : trimStart (trimStart s) = trimStart s :=
  List.dropWhile_idempotent isBlank s

lemma trimEnd_trimEnd (s : List Char) : trimEnd (trimEnd s) = trimEnd s :=
  List.rdropWhile_idempotent isBlank s

/-- What is left after a cut at the end is a beginning, so it starts as before. -/
lemma trimStart_trimEnd {s : List Char} (h : trimStart s = s) :
    trimStart (trimEnd s) = trimEnd s := by
  have hbegins : trimEnd s <+: s := List.rdropWhile_prefix isBlank s
  refine List.dropWhile_eq_self_iff.mpr fun hlength => ?_
  have hs : 0 < s.length := lt_of_lt_of_le hlength hbegins.length_le
  rw [hbegins.getElem hlength]
  exact List.dropWhile_eq_self_iff.mp h hs

@[simp] theorem trim_trim (s : List Char) : trim (trim s) = trim s := by
  rw [trim, trim, trimStart_trimEnd (trimStart_trimStart s), trimEnd_trimEnd]

@[simp] theorem trimmed_trimmed (s : String) : trimmed (trimmed s) = trimmed s := by
  rw [trimmed, toList_trimmed, trim_trim, ← trimmed]

lemma mem_of_mem_trim {s : List Char} {c : Char} (h : c ∈ trim s) : c ∈ s := by
  have hstart : c ∈ trimStart s :=
    List.mem_reverse.mp ((List.dropWhile_sublist _).subset (List.mem_reverse.mp h))
  exact (List.dropWhile_sublist _).subset hstart

/-- A text without blanks. -/
lemma trim_eq_self {s : List Char} (h : ∀ c ∈ s, isBlank c = false) : trim s = s := by
  have hstart : trimStart s = s :=
    List.dropWhile_eq_self_iff.mpr fun hlength => by simp [h s[0]]
  have hend : trimEnd s = s :=
    List.rdropWhile_eq_self_iff.mpr fun hne => by simp [h (s.getLast hne)]
  rw [trim, hstart, hend]

/-! ## The blanks -/

/-- All blanks. -/
def blanks : List Char :=
  [0x9, 0xA, 0xB, 0xC, 0xD, 0x20, 0x85, 0xA0, 0x1680, 0x2000, 0x2001, 0x2002, 0x2003, 0x2004,
    0x2005, 0x2006, 0x2007, 0x2008, 0x2009, 0x200A, 0x2028, 0x2029, 0x202F, 0x205F, 0x3000].map
    Char.ofNat

lemma mem_blanks {c : Char} (h : isBlank c = true) : c ∈ blanks := by
  refine List.mem_map.mpr ⟨c.toNat, ?_, Char.ofNat_toNat c⟩
  simp only [isBlank, Bool.or_eq_true, Bool.and_eq_true, decide_eq_true_eq, beq_iff_eq] at h
  simp only [List.mem_cons, List.not_mem_nil, or_false]
  omega

/-- A digit of any script is no blank. -/
lemma isBlank_of_isDigit {c : Char} (h : isDigit c = true) : isBlank c = false := by
  have hall : (blanks.all fun b => !isDigit b) = true := by cbv
  by_contra hblank
  simpa [h] using List.all_eq_true.mp hall c (mem_blanks (Bool.not_eq_false _ ▸ hblank))

end Deprecation.Text
