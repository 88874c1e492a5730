/-
# A written string is read

A string is written in one of four ways, and from each of them the same string is read, whatever
its characters are.  What could go wrong is at the end: three marks close a string on several
lines, and up to two more marks right before them belong to it.  The writer leaves at most two marks
in a row as they are, so the first place where the reader sees three of them is the end of the
string.  Behind the string there must be no further mark.
-/
import Mathlib
import Deprecation.Toml.Quoted

namespace Deprecation.Toml

variable {c mark : Char} {s rest before : List Char}

/-! ## Escapes -/

lemma hexValue_capitalHexDigit {n : Nat} (hn : n < 16) :
    hexValue (capitalHexDigit n) = some n := by
  have hall : ∀ n < 16, hexValue (capitalHexDigit n) = some n := by decide
  exact hall n hn

lemma charOfCode_toNat (c : Char) : charOfCode c.toNat = some c := by
  have hvalid : c.toNat.isValidChar := c.valid
  rw [charOfCode, dif_pos hvalid]
  exact congrArg some (Char.ext rfl)

/-- A character stands for itself, if it is plain, or an escape stands for it. -/
lemma written_cases (c : Char) :
    (written c = [c] ∧ isPlain c = true ∧ c ≠ '"' ∧ c ≠ '\\') ∨
      ∃ e, written c = '\\' :: e ∧ ∀ rest, escape (e ++ rest) = some (c, rest) := by
  unfold written
  split
  · next h => subst h; exact .inr ⟨_, rfl, fun _ => rfl⟩
  split
  · next h => subst h; exact .inr ⟨_, rfl, fun _ => rfl⟩
  split
  · next h => subst h; exact .inr ⟨_, rfl, fun _ => rfl⟩
  split
  · next h => subst h; exact .inr ⟨_, rfl, fun _ => rfl⟩
  split
  · next h => subst h; exact .inr ⟨_, rfl, fun _ => rfl⟩
  split
  · next h => subst h; exact .inr ⟨_, rfl, fun _ => rfl⟩
  split
  · next h => subst h; exact .inr ⟨_, rfl, fun _ => rfl⟩
  split
  · next hcontrol =>
    -- a control character is written with the two digits of its code point
    have hcode : hexNumber
        ['0', '0', capitalHexDigit (c.toNat / 16), capitalHexDigit (c.toNat % 16)]
          = some c.toNat := by
      have hhigh := hexValue_capitalHexDigit (show c.toNat / 16 < 16 by omega)
      have hlow := hexValue_capitalHexDigit (show c.toNat % 16 < 16 by omega)
      have hzero : hexValue '0' = some 0 := rfl
      simp only [hexNumber, List.foldlM_cons, List.foldlM_nil, hzero, hhigh, hlow, Option.map_some,
        Option.bind_eq_bind, Option.bind_some, Option.pure_def, Option.some.injEq]
      omega
    refine .inr ⟨_, rfl, fun rest => ?_⟩
    show (hexNumber _ >>= charOfCode).map (·, rest) = _
    rw [hcode, Option.bind_eq_bind, Option.bind_some, charOfCode_toNat, Option.map_some]
  · next hquote hslash _ _ _ _ _ hcontrol =>
    refine .inl ⟨rfl, ?_, hquote, hslash⟩
    simp only [isPlain, Bool.or_eq_true, Bool.and_eq_true, decide_eq_true_eq]
    omega

/-! ## One line -/

lemma basic_quote (before rest : List Char) :
    basic before ('"' :: rest) = some (before.reverse, rest) := by
  rw [basic, if_pos rfl]

lemma basic_escape {e : List Char} (h : escape e = some (c, rest)) (before : List Char) :
    basic before ('\\' :: e) = basic (c :: before) rest := by
  rw [basic, if_neg (by decide), if_pos rfl]
  split
  · next h' =>
    rw [h] at h'
    cases h'
    rfl
  · next h' =>
    rw [h] at h'
    cases h'

lemma basic_plain (hc : isPlain c = true) (hquote : c ≠ '"') (hslash : c ≠ '\\')
    (before rest : List Char) : basic before (c :: rest) = basic (c :: before) rest := by
  rw [basic, if_neg hquote, if_neg hslash, if_pos hc]

/-- A text between quotation marks is read. -/
lemma basic_written (s before rest : List Char) :
    basic before (s.flatMap written ++ '"' :: rest) = some (before.reverse ++ s, rest) := by
  induction s generalizing before with
  | nil => rw [List.flatMap_nil, List.nil_append, basic_quote, List.append_nil]
  | cons c s ih =>
    have hnext : basic before (written c ++ (s.flatMap written ++ '"' :: rest))
        = basic (c :: before) (s.flatMap written ++ '"' :: rest) := by
      rcases written_cases c with ⟨hc, hplain, hquote, hslash⟩ | ⟨e, hc, he⟩
      · rw [hc, List.singleton_append, basic_plain hplain hquote hslash]
      · rw [hc, List.cons_append, basic_escape (he _)]
    rw [List.flatMap_cons, List.append_assoc, hnext, ih, List.reverse_cons, List.append_assoc,
      List.singleton_append]

/-- A text between apostrophes is read. -/
lemma literal_append (hplain : ∀ c ∈ s, isPlain c = true) (hmark : '\'' ∉ s)
    (before rest : List Char) :
    literal before (s ++ '\'' :: rest) = some (before.reverse ++ s, rest) := by
  induction s generalizing before with
  | nil => rw [List.nil_append, literal, if_pos rfl, List.append_nil]
  | cons c s ih =>
    obtain ⟨hc, hs⟩ := List.forall_mem_cons.mp hplain
    rw [List.mem_cons, not_or] at hmark
    rw [List.cons_append, literal, if_neg (Ne.symm hmark.1), if_pos hc, ih hs hmark.2,
      List.reverse_cons, List.append_assoc, List.singleton_append]

/-! ## The end of a string on several lines -/

lemma tripleEnd_eq_none (h : ¬[mark, mark, mark] <+: s) : tripleEnd mark s = none := by
  unfold tripleEnd
  split
  · next a b c rest =>
    refine if_neg ?_
    rintro ⟨rfl, rfl, rfl⟩
    exact h ⟨rest, rfl⟩
  · rfl

/-- Up to two marks and the three that close a string. -/
lemma tripleEnd_marks (hrest : rest.head? ≠ some mark) {n : Nat} (hn : n ≤ 2) :
    tripleEnd mark (List.replicate n mark ++ mark :: mark :: mark :: rest)
      = some (List.replicate n mark, rest) := by
  cases rest with
  | nil => interval_cases n <;> simp [tripleEnd]
  | cons e rest =>
    have he : e ≠ mark := fun heq => hrest (heq ▸ rfl)
    cases rest with
    | nil => interval_cases n <;> simp [tripleEnd, he]
    | cons f rest => interval_cases n <;> simp [tripleEnd, he]

/-- Up to two marks and then something else. -/
lemma tripleEnd_marks_cons {x : Char} (hx : x ≠ mark) {n : Nat} (hn : n ≤ 2) (t : List Char) :
    tripleEnd mark (List.replicate n mark ++ x :: t) = none := by
  refine tripleEnd_eq_none ?_
  interval_cases n <;> simp [List.cons_prefix_cons, hx.symm]

/-! ## Between three quotation marks -/

lemma exists_written_eq_cons (c : Char) : ∃ x t, written c = x :: t ∧ x ≠ '"' := by
  rcases written_cases c with ⟨hc, -, hquote, -⟩ | ⟨e, hc, -⟩
  · exact ⟨c, [], hc, hquote⟩
  · exact ⟨'\\', e, hc, by decide⟩

/-- A text begins with as many marks as are left as they are, and then it is at its end or goes on
with something that is no mark. -/
lemma multiWritten_cases (marks : Nat) (s : List Char) :
    (∃ n ≤ 2 - marks, s = List.replicate n '"' ∧ multiWritten marks s = s) ∨
      ∃ n ≤ 2 - marks, ∃ x t, x ≠ '"' ∧
        multiWritten marks s = List.replicate n '"' ++ x :: t := by
  induction s generalizing marks with
  | nil => exact .inl ⟨0, Nat.zero_le _, rfl, rfl⟩
  | cons c s ih =>
    rw [multiWritten]
    split
    · next hc =>
      subst hc
      split
      · next hmarks =>
        rcases ih (marks + 1) with ⟨n, hn, hs, hwritten⟩ | ⟨n, hn, x, t, hx, hwritten⟩
        · exact .inl ⟨n + 1, by omega, by rw [List.replicate_succ, ← hs], by rw [hwritten]⟩
        · refine .inr ⟨n + 1, by omega, x, t, hx, ?_⟩
          rw [hwritten, List.replicate_succ, List.cons_append]
      · exact .inr ⟨0, Nat.zero_le _, '\\', _, by decide, rfl⟩
    · split
      · exact .inr ⟨0, Nat.zero_le _, '\n', _, by decide, rfl⟩
      · obtain ⟨x, t, hwritten, hx⟩ := exists_written_eq_cons c
        exact .inr ⟨0, Nat.zero_le _, x, t ++ multiWritten 0 s, hx, by rw [hwritten]; rfl⟩

/-- Three marks are seen only where nothing but marks is left of the text. -/
lemma tripleEnd_multiWritten (hrest : rest.head? ≠ some '"') (marks : Nat) (s : List Char) :
    tripleEnd '"' (multiWritten marks s ++ '"' :: '"' :: '"' :: rest) = some (s, rest) ∨
      s ≠ [] ∧ tripleEnd '"' (multiWritten marks s ++ '"' :: '"' :: '"' :: rest) = none := by
  rcases multiWritten_cases marks s with ⟨n, hn, hs, hwritten⟩ | ⟨n, hn, x, t, hx, hwritten⟩
  · rw [hwritten, hs]
    exact .inl (tripleEnd_marks hrest (by omega))
  · rw [hwritten, List.append_assoc, List.cons_append, tripleEnd_marks_cons hx (by omega)]
    refine .inr ⟨?_, rfl⟩
    rintro rfl
    have hnil : multiWritten marks [] = [] := rfl
    simp [hnil] at hwritten

lemma multiBasic_end {more : List Char} (h : tripleEnd '"' s = some (more, rest))
    (before : List Char) : multiBasic before s = some (before.reverse ++ more, rest) := by
  unfold multiBasic
  rw [h]

lemma multiBasic_newline (h : tripleEnd '"' s = none) (hnewline : newline? s = some rest)
    (before : List Char) : multiBasic before s = multiBasic ('\n' :: before) rest := by
  rw [multiBasic, h]
  dsimp only
  split
  · next h' =>
    rw [hnewline] at h'
    cases h'
    rfl
  · next h' =>
    rw [hnewline] at h'
    cases h'

lemma multiBasic_escape {e : List Char} (h : tripleEnd '"' ('\\' :: e) = none)
    (he : escape e = some (c, rest)) (before : List Char) :
    multiBasic before ('\\' :: e) = multiBasic (c :: before) rest := by
  have hnewline : newline? ('\\' :: e) = none := rfl
  rw [multiBasic, h]
  dsimp only
  split
  · next h' =>
    rw [hnewline] at h'
    cases h'
  · rw [if_pos rfl]
    split
    · next h' =>
      rw [he] at h'
      cases h'
      rfl
    · next h' =>
      rw [he] at h'
      cases h'

lemma multiBasic_plain (h : tripleEnd '"' (c :: s) = none) (hnewline : newline? (c :: s) = none)
    (hplain : isPlain c = true) (hslash : c ≠ '\\') (before : List Char) :
    multiBasic before (c :: s) = multiBasic (c :: before) s := by
  rw [multiBasic, h]
  dsimp only
  split
  · next h' =>
    rw [hnewline] at h'
    cases h'
  · rw [if_neg hslash, if_pos hplain]

/-- A plain character begins no new line. -/
lemma newline?_of_isPlain (h : isPlain c = true) (s : List Char) : newline? (c :: s) = none := by
  unfold newline?
  split
  · next heq =>
    cases heq
    exact absurd h (by decide)
  · next heq =>
    cases heq
    exact absurd h (by decide)
  · rfl

/-- A text between three quotation marks is read. -/
lemma multiBasic_multiWritten (hrest : rest.head? ≠ some '"') (marks : Nat)
    (before s : List Char) :
    multiBasic before (multiWritten marks s ++ '"' :: '"' :: '"' :: rest)
      = some (before.reverse ++ s, rest) := by
  induction s generalizing marks before with
  | nil => exact multiBasic_end (tripleEnd_marks hrest (Nat.zero_le 2)) before
  | cons c s ih =>
    rcases tripleEnd_multiWritten hrest marks (c :: s) with hend | ⟨-, hgoesOn⟩
    · exact multiBasic_end hend before
    -- the end is not yet seen, so one character is read, and the others are read after it
    have hnext : ∀ marks' t, multiWritten marks (c :: s) = t ++ multiWritten marks' s →
        (multiBasic before (t ++ (multiWritten marks' s ++ '"' :: '"' :: '"' :: rest))
          = multiBasic (c :: before) (multiWritten marks' s ++ '"' :: '"' :: '"' :: rest)) →
        multiBasic before (multiWritten marks (c :: s) ++ '"' :: '"' :: '"' :: rest)
          = some (before.reverse ++ c :: s, rest) := by
      intro marks' t hwritten hstep
      rw [hwritten, List.append_assoc, hstep, ih, List.reverse_cons, List.append_assoc,
        List.singleton_append]
    by_cases hquote : c = '"'
    · subst hquote
      by_cases hmarks : marks < 2
      · have hwritten : multiWritten marks ('"' :: s) = ['"'] ++ multiWritten (marks + 1) s := by
          rw [multiWritten, if_pos rfl, if_pos hmarks, List.singleton_append]
        rw [hwritten, List.append_assoc] at hgoesOn
        exact hnext _ _ hwritten (multiBasic_plain hgoesOn rfl rfl (by decide) before)
      · have hwritten : multiWritten marks ('"' :: s) = ['\\', '"'] ++ multiWritten 0 s := by
          rw [multiWritten, if_pos rfl, if_neg hmarks]
          rfl
        rw [hwritten, List.append_assoc] at hgoesOn
        exact hnext _ _ hwritten (multiBasic_escape hgoesOn rfl before)
    by_cases hline : c = '\n'
    · subst hline
      have hwritten : multiWritten marks ('\n' :: s) = ['\n'] ++ multiWritten 0 s := by
        rw [multiWritten, if_neg (by decide), if_pos rfl, List.singleton_append]
      rw [hwritten, List.append_assoc] at hgoesOn
      exact hnext _ _ hwritten (multiBasic_newline hgoesOn rfl before)
    have hwritten : multiWritten marks (c :: s) = written c ++ multiWritten 0 s := by
      rw [multiWritten, if_neg hquote, if_neg hline]
    rw [hwritten, List.append_assoc] at hgoesOn
    refine hnext _ _ hwritten ?_
    rcases written_cases c with ⟨hc, hplain, -, hslash⟩ | ⟨e, hc, he⟩
    · rw [hc] at hgoesOn ⊢
      exact multiBasic_plain hgoesOn (newline?_of_isPlain hplain _) hplain hslash before
    · rw [hc] at hgoesOn ⊢
      exact multiBasic_escape hgoesOn (he _) before

/-! ## Between three apostrophes -/

/-- What can stand between three apostrophes: plain characters and newlines, and no more than two
apostrophes in a row. -/
structure Unescaped (s : List Char) : Prop where
  plain : ∀ c ∈ s, isPlain c = true ∨ c = '\n'
  apart : ∀ n, List.replicate n '\'' <:+: s → n ≤ 2

lemma Unescaped.tail (h : Unescaped (c :: s)) : Unescaped s where
  plain c' hc' := h.plain c' (List.mem_cons_of_mem c hc')
  apart n hn := h.apart n (hn.trans (List.suffix_cons c s).isInfix)

lemma exists_marks_append (mark : Char) (s : List Char) :
    ∃ n t, s = List.replicate n mark ++ t ∧ t.head? ≠ some mark := by
  induction s with
  | nil => exact ⟨0, [], rfl, by simp⟩
  | cons c s ih =>
    by_cases hc : c = mark
    · obtain ⟨n, t, hs, ht⟩ := ih
      exact ⟨n + 1, t, by rw [hc, hs, List.replicate_succ, List.cons_append], ht⟩
    · exact ⟨0, c :: s, rfl, by simpa using hc⟩

/-- Three apostrophes are seen only where nothing but apostrophes is left of the text. -/
lemma Unescaped.tripleEnd (h : Unescaped s) (hrest : rest.head? ≠ some '\'') :
    tripleEnd '\'' (s ++ '\'' :: '\'' :: '\'' :: rest) = some (s, rest) ∨
      tripleEnd '\'' (s ++ '\'' :: '\'' :: '\'' :: rest) = none := by
  obtain ⟨n, t, rfl, ht⟩ := exists_marks_append '\'' s
  have hn : n ≤ 2 := h.apart n (List.prefix_append _ _).isInfix
  cases t with
  | nil =>
    rw [List.append_nil]
    exact .inl (tripleEnd_marks hrest hn)
  | cons x t =>
    have hx : x ≠ '\'' := by simpa using ht
    rw [List.append_assoc, List.cons_append]
    exact .inr (tripleEnd_marks_cons hx hn _)

lemma multiLiteral_end {more : List Char} (h : Toml.tripleEnd '\'' s = some (more, rest))
    (before : List Char) : multiLiteral before s = some (before.reverse ++ more, rest) := by
  unfold multiLiteral
  rw [h]

lemma multiLiteral_newline (h : Toml.tripleEnd '\'' s = none) (hnewline : newline? s = some rest)
    (before : List Char) : multiLiteral before s = multiLiteral ('\n' :: before) rest := by
  rw [multiLiteral, h]
  dsimp only
  split
  · next h' =>
    rw [hnewline] at h'
    cases h'
    rfl
  · next h' =>
    rw [hnewline] at h'
    cases h'

lemma multiLiteral_plain (h : Toml.tripleEnd '\'' (c :: s) = none) (hplain : isPlain c = true)
    (before : List Char) : multiLiteral before (c :: s) = multiLiteral (c :: before) s := by
  rw [multiLiteral, h]
  dsimp only
  split
  · next h' =>
    rw [newline?_of_isPlain hplain] at h'
    cases h'
  · rw [if_pos hplain]

/-- A text between three apostrophes is read. -/
lemma multiLiteral_append (hrest : rest.head? ≠ some '\'') (h : Unescaped s)
    (before : List Char) :
    multiLiteral before (s ++ '\'' :: '\'' :: '\'' :: rest)
      = some (before.reverse ++ s, rest) := by
  induction s generalizing before with
  | nil => exact multiLiteral_end (tripleEnd_marks hrest (Nat.zero_le 2)) before
  | cons c s ih =>
    rcases h.tripleEnd hrest with hend | hgoesOn
    · exact multiLiteral_end hend before
    have hnext : multiLiteral before (c :: (s ++ '\'' :: '\'' :: '\'' :: rest))
        = multiLiteral (c :: before) (s ++ '\'' :: '\'' :: '\'' :: rest) := by
      rw [List.cons_append] at hgoesOn
      rcases h.plain c List.mem_cons_self with hplain | rfl
      · exact multiLiteral_plain hgoesOn hplain before
      · exact multiLiteral_newline hgoesOn rfl before
    rw [List.cons_append, hnext, ih h.tail, List.reverse_cons, List.append_assoc,
      List.singleton_append]

/-! ## The choice of a way -/

/-- The count of the longest run, after a text. -/
def countRun (c : Char) (state : Nat × Nat) (s : List Char) : Nat × Nat :=
  s.foldl (fun (best, now) x => if x = c then (max best (now + 1), now + 1) else (best, 0)) state

lemma countRun_cons (state : Nat × Nat) (x : Char) (s : List Char) :
    countRun c state (x :: s)
      = countRun c (if x = c then (max state.1 (state.2 + 1), state.2 + 1) else (state.1, 0)) s :=
  rfl

lemma countRun_append (state : Nat × Nat) (s t : List Char) :
    countRun c state (s ++ t) = countRun c (countRun c state s) t :=
  List.foldl_append

lemma le_countRun (s : List Char) (state : Nat × Nat) : state.1 ≤ (countRun c state s).1 := by
  induction s generalizing state with
  | nil => exact le_rfl
  | cons x s ih =>
    rw [countRun_cons]
    split
    · exact (le_max_left _ _).trans (ih (max state.1 (state.2 + 1), state.2 + 1))
    · exact ih (state.1, 0)

lemma countRun_snd_le (s : List Char) {state : Nat × Nat} (h : state.2 ≤ state.1) :
    (countRun c state s).2 ≤ (countRun c state s).1 := by
  induction s generalizing state with
  | nil => exact h
  | cons x s ih =>
    rw [countRun_cons]
    split
    · exact ih (le_max_right _ _)
    · exact ih (Nat.zero_le _)

lemma countRun_replicate (n : Nat) (state : Nat × Nat) :
    (countRun c state (List.replicate n c)).2 = state.2 + n := by
  induction n generalizing state with
  | zero => rfl
  | succ n ih =>
    rw [List.replicate_succ, countRun_cons, if_pos rfl, ih]
    omega

/-- No run is longer than the longest one. -/
lemma le_longestRun {n : Nat} (h : List.replicate n c <:+: s) : n ≤ longestRun c s := by
  obtain ⟨before, behind, rfl⟩ := h
  have hrun : n ≤ (countRun c (0, 0) (before ++ List.replicate n c)).2 := by
    rw [countRun_append, countRun_replicate]
    exact Nat.le_add_left n _
  calc n ≤ (countRun c (0, 0) (before ++ List.replicate n c)).1 :=
        hrun.trans (countRun_snd_le _ le_rfl)
    _ ≤ longestRun c (before ++ List.replicate n c ++ behind) := by
        show _ ≤ (countRun c (0, 0) _).1
        rw [countRun_append _ (before ++ List.replicate n c) behind]
        exact le_countRun behind _

lemma notMem_of_longestRun_eq_zero (h : longestRun c s = 0) : c ∉ s := by
  intro hmem
  obtain ⟨before, behind, rfl⟩ := List.append_of_mem hmem
  have hrun : List.replicate 1 c <:+: before ++ c :: behind := ⟨before, behind, by simp⟩
  have hle := le_longestRun hrun
  omega

lemma isPlain_or_of_not_needsEscape (h : needsEscape c = false) :
    isPlain c = true ∨ c = '\n' := by
  simp only [needsEscape, isPlain, Bool.and_eq_false_iff, Bool.or_eq_false_iff, Bool.or_eq_true,
    Bool.and_eq_true, decide_eq_false_iff_not, decide_eq_true_eq] at h ⊢
  by_cases htab : c = '\t'
  · exact .inl (.inl htab)
  by_cases hline : c = '\n'
  · exact .inr hline
  · left
    right
    obtain (h | h) | h := h
    · exact absurd htab h
    · exact absurd hline h
    · omega

/-! ## Strings -/

lemma quoted_eq_quotedLine (h : ¬['"', '"', '"'] <+: s) (h' : ¬['\'', '\'', '\''] <+: s) :
    quoted s = quotedLine s := by
  unfold quoted
  split
  · next rest => exact absurd ⟨rest, rfl⟩ h
  · next rest => exact absurd ⟨rest, rfl⟩ h'
  · rfl

lemma quoted_basic (hrest : rest.head? ≠ some '"') (s : List Char) :
    quoted (quoteAs s .basic ++ rest) = some (s, rest) := by
  have hline : quoteAs s .basic ++ rest = '"' :: (s.flatMap written ++ '"' :: rest) := by
    simp [quoteAs]
  have htriple : ¬['"', '"', '"'] <+: '"' :: (s.flatMap written ++ '"' :: rest) := by
    rw [List.cons_prefix_cons, not_and]
    intro _
    cases s with
    | nil =>
      cases rest with
      | nil => simp
      | cons x rest =>
        have hx : x ≠ '"' := by simpa using hrest
        simp [List.cons_prefix_cons, hx.symm]
    | cons c s =>
      obtain ⟨x, t, hwritten, hx⟩ := exists_written_eq_cons c
      simp [List.cons_prefix_cons, hwritten, hx.symm]
  rw [hline, quoted_eq_quotedLine htriple (by simp [List.cons_prefix_cons])]
  exact basic_written s [] rest

lemma quoted_literal (hplain : ∀ c ∈ s, isPlain c = true) (hmark : '\'' ∉ s) (hs : s ≠ [])
    (rest : List Char) : quoted (quoteAs s .literal ++ rest) = some (s, rest) := by
  have hline : quoteAs s .literal ++ rest = '\'' :: (s ++ '\'' :: rest) := by
    simp [quoteAs]
  have htriple : ¬['\'', '\'', '\''] <+: '\'' :: (s ++ '\'' :: rest) := by
    obtain ⟨c, s, rfl⟩ := List.exists_cons_of_ne_nil hs
    have hc : '\'' ≠ c := fun heq => hmark (heq ▸ List.mem_cons_self)
    simp [List.cons_prefix_cons, hc]
  rw [hline, quoted_eq_quotedLine (by simp [List.cons_prefix_cons]) htriple]
  exact literal_append hplain hmark [] rest

/-- The newline between the opening marks and a text is dropped, and no other. -/
lemma dropNewline_leadNewline {t : List Char} (h : '\n' ∉ s → newline? t = none) :
    dropNewline (leadNewline s ++ t) = t := by
  rw [leadNewline]
  split
  · rfl
  · next hline =>
    rw [List.nil_append, dropNewline, h (by simpa using hline), Option.getD_none]

lemma newline?_multiWritten (hc : c ≠ '\n') (s t : List Char) :
    newline? (multiWritten 0 (c :: s) ++ t) = none := by
  rw [multiWritten]
  split
  · rfl
  · rcases written_cases c with ⟨hwritten, hplain, -, -⟩ | ⟨e, hwritten, -⟩
    · rw [hwritten]
      exact newline?_of_isPlain hplain _
    · rw [hwritten]
      rfl

lemma quoted_multiBasic (hrest : rest.head? ≠ some '"') (s : List Char) :
    quoted (quoteAs s .multiBasic ++ rest) = some (s, rest) := by
  have hlines : quoteAs s .multiBasic ++ rest = '"' :: '"' :: '"' ::
      (leadNewline s ++ (multiWritten 0 s ++ '"' :: '"' :: '"' :: rest)) := by
    simp [quoteAs]
  have hlead : '\n' ∉ s →
      newline? (multiWritten 0 s ++ '"' :: '"' :: '"' :: rest) = none := by
    intro hline
    cases s with
    | nil => rfl
    | cons c s =>
      have hc : c ≠ '\n' := fun heq => hline (heq ▸ List.mem_cons_self)
      exact newline?_multiWritten hc _ _
  rw [hlines]
  show multiBasic [] (dropNewline _) = _
  rw [dropNewline_leadNewline hlead, multiBasic_multiWritten hrest]
  rfl

lemma quoted_multiLiteral (hrest : rest.head? ≠ some '\'') (h : Unescaped s) :
    quoted (quoteAs s .multiLiteral ++ rest) = some (s, rest) := by
  have hlines : quoteAs s .multiLiteral ++ rest = '\'' :: '\'' :: '\'' ::
      (leadNewline s ++ (s ++ '\'' :: '\'' :: '\'' :: rest)) := by
    simp [quoteAs]
  have hlead : '\n' ∉ s → newline? (s ++ '\'' :: '\'' :: '\'' :: rest) = none := by
    intro hline
    cases s with
    | nil => rfl
    | cons c s =>
      rcases h.plain c List.mem_cons_self with hplain | rfl
      · exact newline?_of_isPlain hplain _
      · exact absurd List.mem_cons_self hline
  rw [hlines]
  show multiLiteral [] (dropNewline _) = _
  rw [dropNewline_leadNewline hlead, multiLiteral_append hrest h]
  rfl

/-- **A written string is read**, if no further mark follows it. -/
theorem quoted_quote (hquote : rest.head? ≠ some '"') (hmark : rest.head? ≠ some '\'')
    (s : List Char) : quoted (quote s ++ rest) = some (s, rest) := by
  have hplain : s.any needsEscape = false → ∀ c ∈ s, isPlain c = true ∨ c = '\n' :=
    fun h c hc => isPlain_or_of_not_needsEscape (by simpa using List.any_eq_false.mp h c hc)
  rw [quote, quotingOf]
  split
  · exact quoted_basic hquote s
  split
  · next hfirst h =>
    -- the empty string is written in the way before
    have hs : s ≠ [] := by
      rintro rfl
      exact hfirst rfl
    simp only [Bool.and_eq_true, Bool.not_eq_true', decide_eq_true_eq] at h
    obtain ⟨⟨hescape, hzero⟩, hline⟩ := h
    refine quoted_literal (fun c hc => ?_) (notMem_of_longestRun_eq_zero hzero) hs rest
    rcases hplain hescape c hc with h | rfl
    · exact h
    · simp [hc] at hline
  split
  · exact quoted_multiBasic hquote s
  split
  · next h =>
    simp only [Bool.and_eq_true, Bool.not_eq_true', decide_eq_true_eq] at h
    exact quoted_multiLiteral hmark ⟨hplain h.1, fun n hn => (le_longestRun hn).trans h.2⟩
  split
  · exact quoted_multiBasic hquote s
  · exact quoted_basic hquote s

end Deprecation.Toml
