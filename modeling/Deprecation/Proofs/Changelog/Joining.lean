/-
# Notes that are joined

Release notes are read line by line, so what is read in two notes one behind the other is what is
read in each of them, up to the facts that both state.  The cut may fall anywhere, and it makes a
line of what stood at the end of the first text: a carriage return there belonged to the line and
now belongs to its ending.  This changes nothing, since no template looks at a character behind
its last backtick, whichever character that is.

A text whose newlines all become a carriage return and a newline has the same lines as before, so
nothing that is read by lines can tell the two apart.
-/
import Mathlib
import Deprecation.Changelog.Document
import Deprecation.Proofs.Changelog.Announcement
import Deprecation.Proofs.Text.Lines

namespace Deprecation

open Text

/-! ## First statements of facts -/

namespace Record

lemma sameFact_iff {r s : Record} :
    r.sameFact s = true ↔ r.token = s.token ∧ r.category = s.category := by
  rw [sameFact, Bool.and_eq_true, beq_iff_eq, beq_iff_eq]

lemma sameFact_trans {r s t : Record} (hrs : r.sameFact s = true) (hst : s.sameFact t = true) :
    r.sameFact t = true := by
  rw [sameFact_iff] at hrs hst ⊢
  exact ⟨hrs.1.trans hst.1, hrs.2.trans hst.2⟩

variable {known known' l m : List Record} {r : Record}

lemma firstStatements_of_known (h : known.any r.sameFact = true) :
    firstStatements known (r :: l) = firstStatements known l := by
  rw [firstStatements, if_pos h]

lemma firstStatements_of_new (h : ¬known.any r.sameFact = true) :
    firstStatements known (r :: l) = r :: firstStatements (r :: known) l := by
  rw [firstStatements, if_neg h]

/-- Behind a list of records, what was kept of it is known. -/
lemma firstStatements_append (known l m : List Record) : firstStatements known (l ++ m) =
    firstStatements known l ++ firstStatements ((firstStatements known l).reverse ++ known) m := by
  induction l generalizing known with
  | nil => rfl
  | cons r l ih =>
    rw [List.cons_append]
    by_cases h : known.any r.sameFact = true
    · rw [firstStatements_of_known h, firstStatements_of_known h, ih]
    · rw [firstStatements_of_new h, firstStatements_of_new h, ih, List.reverse_cons,
        List.append_assoc, List.cons_append, List.cons_append, List.nil_append]

/-- To drop what is known twice, first by less and then by more, is to drop it once by more. -/
lemma firstStatements_firstStatements
    (h : ∀ r : Record, known'.any r.sameFact = true → known.any r.sameFact = true) (l : List Record) :
    firstStatements known (firstStatements known' l) = firstStatements known l := by
  induction l generalizing known known' with
  | nil => rfl
  | cons r l ih =>
    by_cases hr' : known'.any r.sameFact = true
    · rw [firstStatements_of_known hr', firstStatements_of_known (h r hr'), ih h]
    rw [firstStatements_of_new hr']
    by_cases hr : known.any r.sameFact = true
    -- a fact that less does not know and more does: from here on less knows it, too
    · rw [firstStatements_of_known hr, firstStatements_of_known hr, ih]
      intro s hs
      rw [List.any_cons, Bool.or_eq_true] at hs
      rcases hs with hsr | hs
      · obtain ⟨t, ht, hrt⟩ := List.any_eq_true.mp hr
        exact List.any_eq_true.mpr ⟨t, ht, sameFact_trans hsr hrt⟩
      · exact h s hs
    · rw [firstStatements_of_new hr, firstStatements_of_new hr, ih]
      intro s hs
      rw [List.any_cons, Bool.or_eq_true] at hs ⊢
      exact hs.imp_right (h s)

/-- Repetitions may be dropped in each of two lists before they are dropped in both. -/
lemma firstStatements_join (l m : List Record) :
    firstStatements [] (firstStatements [] l ++ firstStatements [] m) =
      firstStatements [] (l ++ m) := by
  have hless (known : List Record) (r : Record) (h : ([] : List Record).any r.sameFact = true) :
      known.any r.sameFact = true := by
    simp at h
  rw [firstStatements_append, firstStatements_append, firstStatements_firstStatements (hless _),
    firstStatements_firstStatements (hless _)]

lemma eraseDupsBy_loop (l known : List Record) :
    List.eraseDupsBy.loop sameFact l known = known.reverse ++ firstStatements known l := by
  induction l generalizing known with
  | nil => rw [List.eraseDupsBy.loop, firstStatements, List.append_nil]
  | cons r l ih =>
    rw [List.eraseDupsBy.loop]
    split
    · next h => rw [ih, firstStatements_of_known h]
    · next h => rw [ih, firstStatements_of_new (by simp [h]), List.reverse_cons, List.append_assoc,
        List.singleton_append]

lemma eraseDupsBy_sameFact (l : List Record) : l.eraseDupsBy sameFact = firstStatements [] l := by
  rw [List.eraseDupsBy, eraseDupsBy_loop, List.reverse_nil, List.nil_append]

end Record

namespace Changelog

/-! ## Characters behind the last backtick -/

section

variable {α : Type} {read : List Char → Option α} {c : Char} {s x y : List Char}

/-- A further character that is no backtick stands behind what is quoted. -/
lemma append_quoted_snoc (hc : c ≠ '`') (u r : List Char) :
    s ++ [c] = u ++ quoted x ++ r ↔ ∃ r', r = r' ++ [c] ∧ s = u ++ quoted x ++ r' := by
  constructor
  · intro h
    rcases List.eq_nil_or_concat r with rfl | ⟨r', d, rfl⟩
    · rw [List.append_nil, quoted, ← List.append_assoc] at h
      exact absurd (List.append_inj' h rfl).2 (by simpa using hc)
    · rw [List.concat_eq_append, ← List.append_assoc] at h
      obtain ⟨rfl, hcd⟩ := List.append_inj' h rfl
      rw [(List.cons.inj hcd).1, List.concat_eq_append]
      exact ⟨r', rfl, rfl⟩
  · rintro ⟨r', rfl, rfl⟩
    rw [List.append_assoc]

lemma firstAlong_snoc (h : ∀ t, read (t ++ [c]) = read t) (s : List Char) :
    firstAlong read (s ++ [c]) = firstAlong read s := by
  induction s with
  | nil =>
    have hnil := h []
    rw [List.nil_append] at hnil ⊢
    simp only [firstAlong, hnil]
    split
    · next a ha => exact ha.symm
    · rfl
  | cons d s ih =>
    have hcons := h (d :: s)
    rw [List.cons_append] at hcons ⊢
    rw [firstAlong, firstAlong, hcons, ih]

lemma firstAtWordStart_snoc (h : ∀ t, read (t ++ [c]) = read t) (hnil : read [] = none)
    (before : Char) (s : List Char) :
    firstAtWordStart read before (s ++ [c]) = firstAtWordStart read before s := by
  induction s generalizing before with
  | nil =>
    have hc := h []
    rw [List.nil_append, hnil] at hc
    simp [firstAtWordStart, hc, hnil]
  | cons d s ih =>
    have hcons := h (d :: s)
    rw [List.cons_append] at hcons ⊢
    rw [firstAtWordStart, firstAtWordStart, hcons, ih]

lemma renamedHere_snoc (hc : c ≠ '`') (s : List Char) : renamedHere (s ++ [c]) = renamedHere s := by
  refine Option.ext fun tokens => ?_
  rw [renamedHere_eq_some_iff (x := tokens.1) (y := tokens.2), renamedHere_eq_some_iff]
  constructor
  · rintro ⟨m, r, hx, hm, hy, h⟩
    obtain ⟨r', -, hs⟩ := (append_quoted_snoc hc _ r).mp h
    exact ⟨m, r', hx, hm, hy, hs⟩
  · rintro ⟨m, r, hx, hm, hy, h⟩
    exact ⟨m, r ++ [c], hx, hm, hy, (append_quoted_snoc hc _ _).mpr ⟨r, rfl, h⟩⟩

lemma favoredHere_snoc (hc : c ≠ '`') (s : List Char) : favoredHere (s ++ [c]) = favoredHere s := by
  refine Option.ext fun y => ?_
  rw [favoredHere_eq_some_iff, favoredHere_eq_some_iff]
  constructor
  · rintro ⟨m, r, hm, hy, h⟩
    obtain ⟨r', -, hs⟩ := (append_quoted_snoc hc _ r).mp h
    exact ⟨m, r', hm, hy, hs⟩
  · rintro ⟨m, r, hm, hy, h⟩
    exact ⟨m, r ++ [c], hm, hy, (append_quoted_snoc hc _ _).mpr ⟨r, rfl, h⟩⟩

lemma changedHere_snoc (hc : c ≠ '`') (s : List Char) : changedHere (s ++ [c]) = changedHere s := by
  have hfavored := firstAtWordStart_snoc (favoredHere_snoc hc) (by decide) '`'
  refine Option.ext fun tokens => ?_
  rw [changedHere_eq_some_iff (x := tokens.1) (y := tokens.2), changedHere_eq_some_iff]
  constructor
  · rintro ⟨t, hx, h, hy⟩
    obtain ⟨t', rfl, hs⟩ := (append_quoted_snoc hc [] t).mp h
    rw [hfavored] at hy
    exact ⟨t', hx, hs, hy⟩
  · rintro ⟨t, hx, h, hy⟩
    rw [← hfavored] at hy
    exact ⟨t ++ [c], hx, (append_quoted_snoc hc [] _).mpr ⟨t, rfl, h⟩, hy⟩

lemma removed_snoc (hc : c ≠ '`') (s : List Char) : removed (s ++ [c]) = removed s := by
  refine Option.ext fun x => ?_
  rw [removed_eq_some_iff, removed_eq_some_iff]
  constructor
  · rintro ⟨u, r, hu, hfree, hx, h⟩
    obtain ⟨r', -, hs⟩ := (append_quoted_snoc hc u r).mp h
    exact ⟨u, r', hu, hfree, hx, hs⟩
  · rintro ⟨u, r, hu, hfree, hx, h⟩
    exact ⟨u, r ++ [c], hu, hfree, hx, (append_quoted_snoc hc u _).mpr ⟨r, rfl, h⟩⟩

/-- A line announces the same with one more character at its end, unless it is a backtick. -/
theorem recordOf_snoc (hc : c ≠ '`') (release : String) (line : List Char) :
    recordOf release (line ++ [c]) = recordOf release line := by
  rw [recordOf, recordOf, renamed, renamed, changed, changed,
    firstAlong_snoc (renamedHere_snoc hc), firstAlong_snoc (changedHere_snoc hc), removed_snoc hc]

end

/-! ## Lines of joined notes -/

variable {release : String}

lemma recordOf_nil : recordOf release [] = none := by
  rw [Option.eq_none_iff_forall_ne_some]
  intro r h
  exact absurd (two_le_count_of_recordOf h) (by decide)

lemma recordOf_dropReturn (line : List Char) :
    recordOf release (dropReturn line) = recordOf release line := by
  rcases List.eq_nil_or_concat line with rfl | ⟨before, c, rfl⟩
  · rfl
  rw [List.concat_eq_append]
  by_cases hc : c = '\r'
  · rw [hc, dropReturn_return, recordOf_snoc (by decide)]
  · rw [dropReturn_of_no_return (by simpa using hc)]

/-- What is announced may be read off the pieces between newlines, whatever ends a line. -/
lemma announcements_eq_pieces (body release : String) :
    announcements body release = (pieces body.toList).filterMap (recordOf (trimmed release)) := by
  have hlast := List.dropLast_append_getLast (pieces_ne_nil body.toList)
  rw [announcements, lines, List.filterMap_append, List.filterMap_map,
    List.getLast?_eq_getLast_of_ne_nil (pieces_ne_nil _), Option.getD_some]
  conv_rhs => rw [← hlast, List.filterMap_append]
  congr 1
  · exact List.filterMap_congr fun line _ => recordOf_dropReturn line
  · split
    · next h => rw [h, List.filterMap_nil, List.filterMap_cons_none recordOf_nil, List.filterMap_nil]
    · rfl

lemma announcements_join (a b release : String) : announcements (a ++ "\n" ++ b) release =
    announcements a release ++ announcements b release := by
  rw [announcements_eq_pieces, announcements_eq_pieces, announcements_eq_pieces,
    ← List.filterMap_append, ← pieces_join]
  simp

/-! ## Endings of lines -/

/-- The text with a carriage return before each newline. -/
def withReturns (text : String) : String :=
  String.ofList (text.toList.flatMap fun c => if c = '\n' then ['\r', '\n'] else [c])

lemma lines_withReturns {text : String} (h : '\r' ∉ text.toList) :
    lines (withReturns text).toList = lines text.toList := by
  rw [withReturns, String.toList_ofList, lines_returns h]

/-! ## The results -/

/-- **Joined notes announce what each of them announces.**  With a newline between two texts the
records are those of the first and then those of the second, each fact where it is stated first;
so no fact is recorded twice.  And it does not matter whether a text without carriage returns has
its newlines alone or behind carriage returns: records, tally and sections are the same. -/
theorem joined_notes_are_read_apart (release : String) :
    (∀ a b : String, records (a ++ "\n" ++ b) release =
      (records a release ++ records b release).eraseDupsBy Record.sameFact) ∧
    (∀ text : String, (records text release).Pairwise fun r s =>
      (r.token, r.category) ≠ (s.token, s.category)) ∧
    ∀ text : String, '\r' ∉ text.toList →
      records (withReturns text) release = records text release ∧
      tally (withReturns text) release = tally text release ∧
      sections (withReturns text) = sections text := by
  refine ⟨fun a b => ?_, fun text => ?_, fun text htext => ?_⟩
  · rw [Record.eraseDupsBy_sameFact, records, records, records, announcements_join,
      Record.firstStatements_join]
  · refine (Record.pairwise_firstStatements [] (announcements text release)).imp ?_
    intro r s hne heq
    rw [Bool.eq_false_iff, Ne, Record.sameFact_iff] at hne
    exact hne ⟨(Prod.mk.inj heq).1.symm, (Prod.mk.inj heq).2.symm⟩
  · have hlines := lines_withReturns htext
    have hannounced : announcements (withReturns text) release = announcements text release := by
      rw [announcements, hlines, announcements]
    have hrecords : records (withReturns text) release = records text release := by
      rw [records, hannounced, records]
    refine ⟨hrecords, ?_, ?_⟩
    · rw [tally, hlines, hannounced, hrecords, tally]
    · rw [sections, hlines, sections]

/-- Two notes on one removal, and a document of two lines. -/
theorem sampleNotes_are_read_apart :
    records ("Removed `f`." ++ "\n" ++ "- removed `f` and `g`") "2.0.0" =
        (records "Removed `f`." "2.0.0" ++ records "- removed `f` and `g`" "2.0.0").eraseDupsBy
          Record.sameFact ∧
      '\r' ∉ "# 2.0.0\nRemoved `f`.\n".toList ∧
      sections (withReturns "# 2.0.0\nRemoved `f`.\n") = sections "# 2.0.0\nRemoved `f`.\n" := by
  have hplain : '\r' ∉ "# 2.0.0\nRemoved `f`.\n".toList := by decide
  obtain ⟨hjoin, -, hreturns⟩ := joined_notes_are_read_apart "2.0.0"
  exact ⟨hjoin _ _, hplain, (hreturns _ hplain).2.2⟩

end Changelog
end Deprecation
