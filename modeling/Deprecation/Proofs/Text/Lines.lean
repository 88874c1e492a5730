/-
# Lines of joined texts

A newline ends a line whatever follows, so a text whose first line is known has this line in
front of the lines of the rest.  The ending may have a carriage return, which is no part of the
line; in a line that goes on with another character a carriage return is one like any other.
-/
import Mathlib
import Deprecation.Text.Blank

namespace Deprecation.Text

variable {line s : List Char}

lemma pieces_of_no_newline (h : '\n' ∉ line) : pieces line = [line] := by
  induction line with
  | nil => rfl
  | cons c line ih =>
    have hc : c ≠ '\n' := fun heq => h (by simp [heq])
    rw [pieces_cons, ih fun hmem => h (List.mem_cons_of_mem c hmem), consPiece, if_neg hc]

lemma pieces_append_newline (h : '\n' ∉ line) (s : List Char) :
    pieces (line ++ '\n' :: s) = line :: pieces s := by
  induction line with
  | nil => exact pieces_newline s
  | cons c line ih =>
    have hc : c ≠ '\n' := fun heq => h (by simp [heq])
    rw [List.cons_append, pieces_cons, ih fun hmem => h (List.mem_cons_of_mem c hmem), consPiece,
      if_neg hc]

/-- The pieces of two texts with a newline between them. -/
lemma pieces_join (s t : List Char) : pieces (s ++ '\n' :: t) = pieces s ++ pieces t := by
  induction s with
  | nil => exact pieces_newline t
  | cons c s ih =>
    rw [List.cons_append, pieces_cons, pieces_cons, ih]
    obtain ⟨first, others, hs⟩ := List.exists_cons_of_ne_nil (pieces_ne_nil s)
    rw [hs, List.cons_append, consPiece, consPiece]
    split
    · rfl
    · rfl

/-- A line that a newline ends comes before the lines of the rest. -/
theorem lines_append_newline (h : '\n' ∉ line) (s : List Char) :
    lines (line ++ '\n' :: s) = dropReturn line :: lines s := by
  have hne := pieces_ne_nil s
  have hlast : (line :: pieces s).getLast? = (pieces s).getLast? :=
    List.getLast?_cons_of_ne_nil hne
  rw [lines, lines, pieces_append_newline h, hlast, List.dropLast_cons_of_ne_nil hne]
  rfl

/-- A text without newlines is one line. -/
lemma lines_of_no_newline (h : '\n' ∉ line) (hne : line ≠ []) : lines line = [line] := by
  simp [lines, pieces_of_no_newline h, hne]

/-! ## Carriage returns -/

lemma dropReturn_of_no_return (h : line.getLast? ≠ some '\r') : dropReturn line = line := by
  rw [dropReturn]
  split
  · next rest hreverse =>
    rw [← List.head?_reverse, hreverse] at h
    exact absurd rfl h
  · rfl

lemma dropReturn_return (line : List Char) : dropReturn (line ++ ['\r']) = line := by
  rw [dropReturn, List.reverse_append, List.reverse_singleton, List.singleton_append]
  exact List.reverse_reverse line

/-- Lines that end with a carriage return and a newline instead of a newline are the same lines. -/
theorem lines_returns (h : '\r' ∉ s) :
    lines (s.flatMap fun c => if c = '\n' then ['\r', '\n'] else [c]) = lines s := by
  have hself : ∀ line : List Char, '\n' ∉ line →
      (line.flatMap fun c => if c = '\n' then ['\r', '\n'] else [c]) = line := by
    intro line hline
    rw [List.flatMap_congr (g := fun c => [c]), List.flatMap_singleton']
    intro c hc
    have hne : c ≠ '\n' := fun heq => hline (heq ▸ hc)
    rw [if_neg hne]
  induction hlength : s.length using Nat.strong_induction_on generalizing s with
  | h n ih =>
    by_cases hs : '\n' ∈ s
    · obtain ⟨line, rest, rfl, hline⟩ := List.eq_append_cons_of_mem hs
      rw [List.mem_append, List.mem_cons, not_or, not_or] at h
      have hrest : rest.length < n := by simp [← hlength]; omega
      have hreturn : '\n' ∉ line ++ ['\r'] := by simpa using hline
      rw [List.flatMap_append, List.flatMap_cons, hself line hline, if_pos rfl,
        lines_append_newline hline, ← ih _ hrest h.2.2 rfl,
        dropReturn_of_no_return fun hlast => h.1 (List.mem_of_getLast? hlast)]
      rw [List.cons_append, ← List.singleton_append, ← List.append_assoc, List.singleton_append,
        lines_append_newline hreturn, dropReturn_return]
    · rw [hself s hs]

/-- The ending of a line is behind its last character that is no carriage return. -/
lemma exists_dropReturn_append {c : Char} (hc : c ≠ '\r') (line s : List Char) :
    ∃ s', dropReturn (line ++ c :: s) = line ++ c :: s' := by
  rw [dropReturn]
  split
  · next rest hreverse =>
    cases hs : s.reverse with
    | nil =>
      rw [List.reverse_append, List.reverse_cons, hs] at hreverse
      exact absurd (List.cons.inj hreverse).1 hc
    | cons d before =>
      rw [List.reverse_append, List.reverse_cons, hs] at hreverse
      obtain ⟨-, hrest⟩ := List.cons.inj hreverse
      refine ⟨before.reverse, ?_⟩
      rw [← hrest]
      simp
  · exact ⟨s, rfl⟩

end Deprecation.Text
