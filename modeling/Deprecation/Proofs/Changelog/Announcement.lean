/-
# What a sentence announces is what is read

A release note announces a renaming, a removal or a change in prose, and there is something
before, between and behind the tokens.  The three templates are tried on every line, and each
could take the line from the one that is meant, or take other tokens than the ones that are meant.
This file goes through the lines that announce something and shows that each is read as what it
says.

All of it is a matter of backticks.  A renaming and a change have two quoted tokens, so a line
with one token is neither.  In a line with two tokens the backticks fix where the tokens are, and
what stands between them cannot end both in the word `to` of a renaming and in the word `of` of a
change.  A removal opens the line, and it is all that one has to ask of the lines that announce a
change that they do not open like one.
-/
import Mathlib
import Deprecation.Proofs.Changelog.Facts
import Deprecation.Proofs.Changelog.Sentence
import Deprecation.Proofs.Text.Lines

namespace Deprecation.Changelog

open Text

variable {line p s r x y m : List Char}

/-! ## The announcements -/

/-- A token that names something: it is not blank, and it has no backtick. -/
structure IsName (x : List Char) : Prop where
  solid : ∃ c ∈ x, isBlank c = false
  free : '`' ∉ x

lemma IsName.isQuotable (hx : IsName x) : IsQuotable x := by
  obtain ⟨c, hc, -⟩ := hx.solid
  exact ⟨List.ne_nil_of_mem hc, hx.free⟩

/-- A list that ends in no word character. -/
def EndsNoWord (m : List Char) : Prop :=
  ∀ c, m.getLast? = some c → isWord c = false

/-- The lines that announce something, with what they announce: the category, the token that is
deprecated, and the token that takes its place.  The blanks that stand before the word
`deprecated` of a change belong to what is between. -/
inductive Announces : Category → List Char → Option (List Char) → List Char → Prop
  | renamed {before old between new rest : List Char} (hbefore : '`' ∉ before) (hold : IsName old)
    (hbetween : IsRenaming between) (hnew : IsName new) :
    Announces .renamed old (some new) (before ++ quoted old ++ between ++ quoted new ++ rest)
  | removed {lead marker word between old rest : List Char} (hlead : ∀ c ∈ lead, isBlank c = true)
    (hmarker : IsMarker marker) (hword : word.map Char.toLower = "removed".toList)
    (hbetween : StartsNoWord between) (hfree : '`' ∉ between) (hold : IsName old)
    (hrest : '`' ∉ rest) :
    Announces .removed old none (lead ++ marker ++ word ++ between ++ quoted old ++ rest)
  | changed {before old between clause new rest : List Char} (hbefore : '`' ∉ before)
    (hopens : ¬OpensRemoval before) (hold : IsName old) (hbetween : EndsNoWord between)
    (hfree : '`' ∉ between) (hclause : IsFavor clause) (hnew : IsName new) (hrest : '`' ∉ rest) :
    Announces .changed old (some new)
      (before ++ quoted old ++ between ++ "deprecated".toList ++ clause ++ quoted new ++ rest)

/-- The record of what is announced. -/
def announced (category : Category) (old : List Char) (new : Option (List Char))
    (release : String) : Record :=
  ⟨String.ofList (trim old), new.map fun new => String.ofList (trim new), category, release⟩

/-! ## Backticks in what is read -/

lemma count_quoted (hx : '`' ∉ x) : (quoted x).count '`' = 2 := by
  rw [quoted, List.count_append, List.count_cons_self, List.count_eq_zero.mpr hx,
    List.count_singleton_self]

lemma exists_of_renamed (h : renamed line = some (x, y)) :
    ∃ p m r, IsQuotable x ∧ IsRenaming m ∧ IsQuotable y ∧
      line = p ++ quoted x ++ m ++ quoted y ++ r := by
  obtain ⟨p, t, rfl, ht⟩ := exists_of_firstAlong h
  obtain ⟨m, r, hx, hm, hy, rfl⟩ := renamedHere_eq_some_iff.mp ht
  exact ⟨p, m, r, hx, hm, hy, by simp only [List.append_assoc]⟩

/-- The token that takes the place of another one, wherever its clause begins. -/
lemma exists_of_favored {before : Char} (h : firstAtWordStart favoredHere before s = some y) :
    ∃ p clause r, IsFavor clause ∧ IsQuotable y ∧
      s = p ++ "deprecated".toList ++ clause ++ quoted y ++ r := by
  obtain ⟨p, t, rfl, ht⟩ := exists_of_firstAtWordStart h
  obtain ⟨clause, r, hclause, hy, rfl⟩ := favoredHere_eq_some_iff.mp ht
  exact ⟨p, clause, r, hclause, hy, by simp only [List.append_assoc]⟩

/-- Two tokens in a line take four backticks. -/
lemma four_le_count_of_renamed (h : renamed line = some (x, y)) : 4 ≤ line.count '`' := by
  obtain ⟨p, m, r, hx, -, hy, rfl⟩ := exists_of_renamed h
  simp only [List.count_append, count_quoted hx.2, count_quoted hy.2]
  omega

lemma two_le_count_of_removed (h : removed line = some x) : 2 ≤ line.count '`' := by
  obtain ⟨u, r, -, -, hx, rfl⟩ := removed_eq_some_iff.mp h
  simp only [List.count_append, count_quoted hx.2]
  omega

lemma two_le_count_of_changed (h : changed line = some (x, y)) : 2 ≤ line.count '`' := by
  obtain ⟨p, s, rfl, hs⟩ := exists_of_firstAlong h
  obtain ⟨t, hx, rfl, -⟩ := changedHere_eq_some_iff.mp hs
  simp only [List.count_append, count_quoted hx.2]
  omega

/-- A line is read only if it has a token, and a token takes two backticks. -/
lemma two_le_count_of_recordOf {release : String} {record : Record}
    (h : recordOf release line = some record) : 2 ≤ line.count '`' := by
  simp only [recordOf, Option.orElse_eq_orElse, Option.orElse_eq_or, Option.or_eq_some_iff] at h
  rcases h with h | ⟨-, h | ⟨-, h⟩⟩
  · obtain ⟨⟨x, y⟩, htokens, -⟩ := Option.bind_eq_some_iff.mp h
    exact le_trans (by decide) (four_le_count_of_renamed htokens)
  · obtain ⟨x, htoken, -⟩ := Option.bind_eq_some_iff.mp h
    exact two_le_count_of_removed htoken
  · obtain ⟨⟨x, y⟩, htokens, -⟩ := Option.bind_eq_some_iff.mp h
    exact two_le_count_of_changed htokens

/-! ## Which tokens are read -/

/-- A reader of something that a backtick begins passes over what has none. -/
lemma firstAlong_of_free {α : Type} {read : List Char → Option α} {a : α}
    (hread : ∀ s b, read s = some b → s.head? = some '`') (hp : '`' ∉ p) (h : read s = some a) :
    firstAlong read (p ++ s) = some a := by
  have hskip : firstAlong read (p ++ s) = firstAlong read s := by
    refine firstAlong_append fun u v huv hv => ?_
    by_contra hsome
    obtain ⟨b, hb⟩ := Option.ne_none_iff_exists'.mp hsome
    obtain ⟨c, v, rfl⟩ := List.exists_cons_of_ne_nil hv
    cases hread _ b hb
    exact hp (by rw [huv]; simp)
  rw [hskip, firstAlong_of_some h]

lemma renamed_of_announced (hp : '`' ∉ p) (hx : IsQuotable x) (hm : IsRenaming m)
    (hy : IsQuotable y) : renamed (p ++ quoted x ++ m ++ quoted y ++ s) = some (x, y) := by
  have hline : p ++ quoted x ++ m ++ quoted y ++ s = p ++ (quoted x ++ m ++ quoted y ++ s) := by
    simp only [List.append_assoc]
  rw [hline]
  refine firstAlong_of_free ?_ hp (renamedHere_eq_some_iff.mpr ⟨m, s, hx, hm, hy, rfl⟩)
  rintro t ⟨x', y'⟩ ht
  obtain ⟨m', r', -, -, -, rfl⟩ := renamedHere_eq_some_iff.mp ht
  rfl

lemma notMem_of_phrase {ws : List String} (hws : ∀ w ∈ ws, '`' ∉ w.toList) (h : Phrase ws m) :
    '`' ∉ m := by
  induction h with
  | gap hg => exact notMem_of_blank hg.2
  | @word w ws g m hg _ ih =>
    simp only [List.mem_append, not_or]
    exact ⟨⟨notMem_of_blank hg.2, hws w List.mem_cons_self⟩,
      ih fun v hv => hws v (List.mem_cons_of_mem w hv)⟩

lemma notMem_of_favor (h : IsFavor m) : '`' ∉ m :=
  h.elim (notMem_of_phrase (by decide)) (notMem_of_phrase (by decide))

lemma notMem_of_clause {clause : List Char} (hm : '`' ∉ m) (hclause : IsFavor clause) :
    '`' ∉ m ++ "deprecated".toList ++ clause := by
  simp only [List.mem_append, not_or]
  exact ⟨⟨hm, by decide⟩, notMem_of_favor hclause⟩

/-- What stands before a token that is the only one. -/
lemma notMem_of_count (hx : '`' ∉ x) (h : (p ++ quoted x ++ r).count '`' = 2) : '`' ∉ p := by
  simp only [List.count_append, count_quoted hx] at h
  exact List.count_eq_zero.mp (by omega)

/-- Where no more than one token follows, it is the token of the clause. -/
lemma favored_of_announced {clause : List Char} (hm : EndsNoWord m) (hfree : '`' ∉ m)
    (hclause : IsFavor clause) (hy : IsQuotable y) (hs : '`' ∉ s) :
    firstAtWordStart favoredHere '`' (m ++ "deprecated".toList ++ clause ++ quoted y ++ s) =
      some y := by
  have hend : isWord (('`' :: m).getLast (List.cons_ne_nil '`' m)) = false := by
    rcases List.eq_nil_or_concat m with rfl | ⟨u, c, rfl⟩
    · decide
    · simpa using hm c (by simp)
  have hhere : favoredHere ("deprecated".toList ++ clause ++ quoted y ++ s) = some y :=
    favoredHere_eq_some_iff.mpr ⟨clause, s, hclause, hy, rfl⟩
  -- the clause may be read at an earlier place than this one, but then with the same token
  obtain ⟨y', hy'⟩ := exists_firstAtWordStart hhere hend
  rw [← List.append_assoc, ← List.append_assoc, ← List.append_assoc] at hy'
  obtain ⟨p', clause', r', hclause', hquot', heq⟩ := exists_of_favored hy'
  have hbetween := notMem_of_clause hfree hclause
  have hcount : (p' ++ "deprecated".toList ++ clause' ++ quoted y' ++ r').count '`' = 2 := by
    rw [← heq, List.count_append, List.count_append, List.count_eq_zero.mpr hbetween,
      count_quoted hy.2, List.count_eq_zero.mpr hs]
  have hp' := notMem_of_count hquot'.2 hcount
  obtain ⟨-, rfl, -⟩ := append_quoted_inj hbetween hp' hy.2 hquot'.2 heq
  exact hy'

lemma changed_of_announced {clause : List Char} (hp : '`' ∉ p) (hx : IsQuotable x)
    (hm : EndsNoWord m) (hfree : '`' ∉ m) (hclause : IsFavor clause) (hy : IsQuotable y)
    (hs : '`' ∉ s) :
    changed (p ++ quoted x ++ m ++ "deprecated".toList ++ clause ++ quoted y ++ s) =
      some (x, y) := by
  have hline : p ++ quoted x ++ m ++ "deprecated".toList ++ clause ++ quoted y ++ s =
      p ++ (quoted x ++ (m ++ "deprecated".toList ++ clause ++ quoted y ++ s)) := by
    simp only [List.append_assoc]
  rw [hline]
  refine firstAlong_of_free ?_ hp (changedHere_eq_some_iff.mpr
    ⟨_, hx, rfl, favored_of_announced hm hfree hclause hy hs⟩)
  rintro t ⟨x', y'⟩ ht
  obtain ⟨t, -, rfl, -⟩ := changedHere_eq_some_iff.mp ht
  rfl

/-! ## Which template wins -/

lemma trimEnd_append_gap {u g : List Char} {c : Char} (hc : isBlank c = false)
    (hg : ∀ d ∈ g, isBlank d = true) : trimEnd (u ++ [c] ++ g) = u ++ [c] := by
  have hsolid : StartsSolid (u ++ [c]).reverse := by
    intro d hd
    rw [List.reverse_append, List.reverse_singleton] at hd
    cases hd
    exact hc
  rw [trimEnd, List.reverse_append,
    dropWhile_blank_append (fun d hd => hg d (List.mem_reverse.mp hd)) hsolid, List.reverse_reverse]

/-- Before the gap that ends a phrase stands its last word. -/
lemma exists_trimEnd_phrase {ws : List String} {w : String} {c : Char} (h : Phrase ws m)
    (hlast : ws.getLast? = some w) (hw : w.toList.getLast? = some c) (hc : isBlank c = false)
    (u : List Char) : ∃ v, trimEnd (u ++ m) = v ++ [c] := by
  induction h generalizing u with
  | gap hg => cases hlast
  | @word v ws g m hg hm ih =>
    cases hm with
    | gap hg' =>
      obtain rfl : v = w := by simpa using hlast
      obtain ⟨l, hl⟩ := List.getLast?_eq_some_iff.mp hw
      refine ⟨u ++ g ++ l, ?_⟩
      have hsplit : u ++ (g ++ v.toList ++ m) = u ++ g ++ l ++ [c] ++ m := by
        rw [hl]
        simp only [List.append_assoc]
      rw [hsplit, trimEnd_append_gap hc hg'.2]
    | word hg' hm' =>
      rw [List.getLast?_cons_cons] at hlast
      obtain ⟨t, ht⟩ := ih hlast (u ++ (g ++ v.toList))
      exact ⟨t, by rw [← ht, List.append_assoc u]⟩

/-- What stands between the tokens of a renaming ends in another word than a clause does. -/
lemma not_isRenaming_append (u : List Char) {clause : List Char} (hclause : IsFavor clause) :
    ¬IsRenaming (u ++ clause) := by
  intro hrenaming
  obtain ⟨v, hv⟩ := exists_trimEnd_phrase (w := "to") (c := 'o') hrenaming rfl (by decide)
    (by decide) []
  have hof : ∃ v, trimEnd (u ++ clause) = v ++ ['f'] := by
    rcases hclause with hfavor | hfavour
    · exact exists_trimEnd_phrase (w := "of") hfavor rfl (by decide) (by decide) u
    · exact exists_trimEnd_phrase (w := "of") hfavour rfl (by decide) (by decide) u
  obtain ⟨v', hv'⟩ := hof
  rw [List.nil_append, hv'] at hv
  have hlast := congrArg List.getLast? hv
  simp at hlast

/-- A line with two tokens between which there is no renaming is none. -/
lemma renamed_eq_none_of_between (hp : '`' ∉ p) (hx : IsQuotable x) (hm : '`' ∉ m)
    (hno : ¬IsRenaming m) (hy : IsQuotable y) (hs : '`' ∉ s) :
    renamed (p ++ quoted x ++ m ++ quoted y ++ s) = none := by
  by_contra hsome
  obtain ⟨⟨x', y'⟩, htokens⟩ := Option.ne_none_iff_exists'.mp hsome
  obtain ⟨p', m', r', hx', hm', hy', heq⟩ := exists_of_renamed htokens
  -- the four backticks of the line are those of the two tokens, so they are the same tokens
  have hcount := congrArg (List.count '`') heq
  simp only [List.count_append, count_quoted hx.2, count_quoted hy.2, count_quoted hx'.2,
    count_quoted hy'.2, List.count_eq_zero.mpr hp, List.count_eq_zero.mpr hm,
    List.count_eq_zero.mpr hs] at hcount
  have hp' : '`' ∉ p' := List.count_eq_zero.mp (by omega)
  have hm'free : '`' ∉ m' := List.count_eq_zero.mp (by omega)
  simp only [List.append_assoc] at heq
  rw [← List.append_assoc, ← List.append_assoc p'] at heq
  obtain ⟨-, -, heq⟩ := append_quoted_inj hp hp' hx.2 hx'.2 heq
  rw [← List.append_assoc, ← List.append_assoc m'] at heq
  obtain ⟨rfl, -, -⟩ := append_quoted_inj hm hm'free hy.2 hy'.2 heq
  exact hno hm'

/-- A line with one token is no renaming. -/
lemma renamed_eq_none_of_single (hp : '`' ∉ p) (hx : '`' ∉ x) (hs : '`' ∉ s) :
    renamed (p ++ quoted x ++ s) = none := by
  by_contra hsome
  obtain ⟨⟨x', y'⟩, htokens⟩ := Option.ne_none_iff_exists'.mp hsome
  have hcount := four_le_count_of_renamed htokens
  rw [List.count_append, List.count_append, List.count_eq_zero.mpr hp, count_quoted hx,
    List.count_eq_zero.mpr hs] at hcount
  omega

/-- What stands before the token of a removal opens it. -/
lemma removed_eq_none_of_before (hp : '`' ∉ p) (hopens : ¬OpensRemoval p) (hx : '`' ∉ x) :
    removed (p ++ quoted x ++ s) = none := by
  by_contra hsome
  obtain ⟨x', htoken⟩ := Option.ne_none_iff_exists'.mp hsome
  obtain ⟨u, r, hu, hfree, hx', heq⟩ := removed_eq_some_iff.mp htoken
  obtain ⟨rfl, -, -⟩ := append_quoted_inj hp hfree hx hx'.2 heq
  exact hopens hu

/-! ## The records -/

lemma tokenOf_name (hx : IsName x) : tokenOf x = some (String.ofList (trim x)) := by
  obtain ⟨c, hc, hblank⟩ := hx.solid
  have hne : trim x ≠ [] := by
    intro hnil
    obtain ⟨g, hg, heq, -⟩ := exists_dropWhile_blank x
    rw [heq] at hc
    have hrest : ∀ d ∈ x.dropWhile isBlank, isBlank d = true := List.rdropWhile_eq_nil_iff.mp hnil
    simp [(List.mem_append.mp hc).elim (hg c) (hrest c)] at hblank
  rw [tokenOf]
  simp [hne]

/-- Whatever a line announces is what is read. -/
lemma recordOf_of_announces {category : Category} {old : List Char} {new : Option (List Char)}
    (h : Announces category old new line) (release : String) :
    recordOf release line = some (announced category old new release) := by
  cases h with
  | renamed hbefore hold hbetween hnew =>
    rw [recordOf, renamed_of_announced hbefore hold.isQuotable hbetween hnew.isQuotable]
    simp [replacing, tokenOf_name hold, tokenOf_name hnew, announced]
  | @removed lead marker word between x rest hlead hmarker hword hbetween hfree hold hrest =>
    have hopening : '`' ∉ lead ++ marker ++ word ++ between :=
      notMem_of_opening hlead hmarker hword hfree
    have hrenamed := renamed_eq_none_of_single hopening hold.free hrest
    have hremoved : removed (lead ++ marker ++ word ++ between ++ quoted old ++ rest) = some old :=
      removed_eq_some_iff.mpr ⟨_, rest, .intro hlead hmarker hword hbetween, hopening,
        hold.isQuotable, rfl⟩
    rw [recordOf, hrenamed, hremoved]
    simp [removing, tokenOf_name hold, announced]
  | @changed before x between clause y rest hbefore hopens hold hbetween hfree hclause hnew hrest =>
    have hrenamed := renamed_eq_none_of_between hbefore hold.isQuotable
      (notMem_of_clause hfree hclause) (not_isRenaming_append _ hclause) hnew.isQuotable hrest
    have hremoved := removed_eq_none_of_before (s := between ++ "deprecated".toList ++ clause ++
      quoted y ++ rest) hbefore hopens hold.free
    have hchanged := changed_of_announced hbefore hold.isQuotable hbetween hfree hclause
      hnew.isQuotable hrest
    simp only [← List.append_assoc] at hrenamed hremoved
    rw [recordOf, hrenamed, hremoved, hchanged]
    simp [replacing, tokenOf_name hold, tokenOf_name hnew, announced]

lemma records_eq_singleton {version : String} {record : Record} (hline : '\n' ∉ line)
    (h : recordOf (trimmed version) line = some record) :
    records (String.ofList line) version = [record] := by
  have hne : line ≠ [] := by
    rintro rfl
    exact absurd (two_le_count_of_recordOf h) (by decide)
  have hstated : announcements (String.ofList line) version = [record] := by
    rw [announcements, String.toList_ofList, lines_of_no_newline hline hne,
      List.filterMap_cons_some h, List.filterMap_nil]
  simp [records, hstated, Record.firstStatements]

/-- A line that announces something is read as what it announces, wherever it stands and also on
its own; a line with fewer than two backticks is not read; and so every record goes back to a line
with a token in it, and carries the label of its release. -/
theorem sentences_are_read_as_written (version : String) :
    (∀ category old new line, Announces category old new line → '\n' ∉ line →
      recordOf (trimmed version) line = some (announced category old new (trimmed version)) ∧
      records (String.ofList line) version = [announced category old new (trimmed version)]) ∧
    (∀ line : List Char, line.count '`' < 2 → recordOf (trimmed version) line = none) ∧
    ∀ text, ∀ record ∈ records text version, record.release = trimmed version ∧
      ∃ line ∈ lines text.toList, 2 ≤ line.count '`' ∧
        recordOf (trimmed version) line = some record := by
  refine ⟨fun category old new line h hline => ?_, fun line hcount => ?_,
    fun text record hrecord => ⟨(of_mem_records hrecord).2, ?_⟩⟩
  · have hread := recordOf_of_announces h (trimmed version)
    exact ⟨hread, records_eq_singleton hline hread⟩
  · by_contra hsome
    obtain ⟨record, hrecord⟩ := Option.ne_none_iff_exists'.mp hsome
    exact absurd (two_le_count_of_recordOf hrecord) (not_le.mpr hcount)
  · have hstated := (Record.sublist_firstStatements [] _).subset hrecord
    obtain ⟨line, hline, hread⟩ := List.mem_filterMap.mp hstated
    exact ⟨line, hline, two_le_count_of_recordOf hread, hread⟩

/-- One sentence of each kind, and one that quotes nothing. -/
theorem sampleSentences_are_read :
    records "now `load` has  been renamed to ` get `, see `docs`" " 2.1 " =
      [⟨"load", some "get", .renamed, "2.1"⟩] ∧
    records " * REMOVED: `quiet`." " 2.1 " = [⟨"quiet", none, .removed, "2.1"⟩] ∧
    records "`get` (old) is deprecated in favour of `fetch`" " 2.1 " =
      [⟨"get", some "fetch", .changed, "2.1"⟩] ∧
    recordOf (trimmed " 2.1 ") "removed `quiet".toList = none := by
  obtain ⟨hread, hbare, -⟩ := sentences_are_read_as_written " 2.1 "
  have hblank : isBlank ' ' = true := by decide
  have hgap : IsGap [' '] := ⟨by decide, by simpa using hblank⟩
  have hgaps : IsGap [' ', ' '] := ⟨by decide, by simpa using hblank⟩
  refine ⟨?_, ?_, ?_, hbare _ (by decide)⟩
  · have hbetween : IsRenaming " has  been renamed to ".toList :=
      .word hgap (.word hgaps (.word hgap (.word hgap (.gap hgap))))
    have hsentence : Announces .renamed "load".toList (some " get ".toList)
        ("now ".toList ++ quoted "load".toList ++ " has  been renamed to ".toList ++
          quoted " get ".toList ++ ", see `docs`".toList) :=
      .renamed (by decide) ⟨⟨'l', by decide, by decide⟩, by decide⟩ hbetween
        ⟨⟨'g', by decide, by decide⟩, by decide⟩
    exact (hread _ _ _ _ hsentence (by decide)).2.trans (by decide +kernel)
  · have hsentence : Announces .removed "quiet".toList none
        (" ".toList ++ "* ".toList ++ "REMOVED".toList ++ ": ".toList ++ quoted "quiet".toList ++
          ".".toList) := by
      refine .removed (by simpa using hblank) (Or.inr ⟨'*', " ".toList, by decide, hgap, rfl⟩)
        (by decide) ?_ (by decide) ⟨⟨'q', by decide, by decide⟩, by decide⟩ (by decide)
      rintro c hc
      cases hc
      decide
    exact (hread _ _ _ _ hsentence (by decide)).2.trans (by decide +kernel)
  · have hclause : IsFavor " in favour of ".toList :=
      .inr (.word hgap (.word hgap (.word hgap (.gap hgap))))
    have hends : EndsNoWord " (old) is ".toList := by
      intro c hc
      cases hc
      decide
    have hsentence : Announces .changed "get".toList (some "fetch".toList)
        ([] ++ quoted "get".toList ++ " (old) is ".toList ++ "deprecated".toList ++
          " in favour of ".toList ++ quoted "fetch".toList ++ []) :=
      .changed (by decide) not_opensRemoval_nil ⟨⟨'g', by decide, by decide⟩, by decide⟩ hends
        (by decide) hclause ⟨⟨'f', by decide, by decide⟩, by decide⟩ (by decide)
    exact (hread _ _ _ _ hsentence (by decide)).2.trans (by decide +kernel)

end Deprecation.Changelog
