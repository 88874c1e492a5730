/-
# The words of a slug

A slug is written in one pass, but it is the same as this: the words of the token, which are its
longest runs of ASCII letters and digits, in small letters and with one hyphen between two of them.
The rest is read off that form.  A word has no hyphen in it, so hyphens stand apart from each other
and from the ends; the words of a slug are the words that it was joined from; and a separator
between two texts divides the words of the one from those of the other.

A slug starts at the first ASCII letter or digit of its token, and that character is in it.  So the
only tokens without a slug are those that have no such character.
-/
import Mathlib
import Deprecation.RuleId.Slug

namespace Deprecation.RuleId

open Text

/-! ## Empty slugs -/

lemma slugChars_eq_nil_iff (s : List Char) :
    slugChars s = [] ↔ ∀ c ∈ s, isAsciiAlphanumeric c = false := by
  have hhead := List.head?_dropWhile_not (fun c => !isAsciiAlphanumeric c) s
  rw [slugChars]
  cases hdrop : s.dropWhile fun c => !isAsciiAlphanumeric c with
  | nil =>
    rw [List.dropWhile_eq_nil_iff] at hdrop
    simpa using hdrop
  | cons c rest =>
    rw [hdrop] at hhead
    have hletter : isAsciiAlphanumeric c = true := by simpa using hhead
    have hmem : c ∈ s := (List.dropWhile_suffix _).mem (hdrop ▸ List.mem_cons_self)
    rw [slugRest_cons_of_letter hletter]
    refine iff_of_false (List.append_ne_nil_of_right_ne_nil _ (List.cons_ne_nil _ _)) fun hall => ?_
    rw [hall c hmem] at hletter
    cases hletter

/-- A slug is empty just when the token has no ASCII letter or digit. -/
theorem slug_isEmpty_eq_false_iff (token : String) :
    (slug token).isEmpty = false ↔ ∃ c ∈ token.toList, isAsciiAlphanumeric c = true := by
  rw [String.isEmpty_eq_false_iff, Ne, slug, ← String.toList_inj, String.toList_ofList,
    String.toList_empty, slugChars_eq_nil_iff]
  simp

/-! ## Small letters -/

/-- A letter or digit of a slug. -/
def IsSmall (c : Char) : Prop := ('a' ≤ c ∧ c ≤ 'z') ∨ ('0' ≤ c ∧ c ≤ '9')

instance (c : Char) : Decidable (IsSmall c) := inferInstanceAs (Decidable (_ ∨ _))

lemma toNat_lt_of_letter {c : Char} (h : isAsciiAlphanumeric c = true) : c.toNat < 128 := by
  have hle : ∀ {x : Char}, c ≤ x → c.toNat ≤ x.toNat := fun hx => hx
  simp only [isAsciiAlphanumeric, isAsciiLetter, isAsciiDigit, Bool.or_eq_true, Bool.and_eq_true,
    decide_eq_true_eq] at h
  obtain (⟨-, hc⟩ | ⟨-, hc⟩) | ⟨-, hc⟩ := h
  · exact (hle hc).trans_lt (by decide)
  · exact (hle hc).trans_lt (by decide)
  · exact (hle hc).trans_lt (by decide)

/-- A letter or digit made small is one still, and making it small again changes nothing. -/
lemma toLower_of_letter {c : Char} (h : isAsciiAlphanumeric c = true) :
    IsSmall c.toLower ∧ isAsciiAlphanumeric c.toLower = true ∧ c.toLower.toLower = c.toLower := by
  have hall : ∀ n < 128, isAsciiAlphanumeric (Char.ofNat n) = true →
      IsSmall (Char.ofNat n).toLower ∧ isAsciiAlphanumeric (Char.ofNat n).toLower = true ∧
        (Char.ofNat n).toLower.toLower = (Char.ofNat n).toLower := by
    decide
  have hc := hall c.toNat (toNat_lt_of_letter h)
  rw [Char.ofNat_toNat] at hc
  exact hc h

/-! ## Words -/

/-- The pieces of a text between characters that are no ASCII letters or digits. -/
def pieces (s : List Char) : List (List Char) :=
  s.splitOnP fun c => !isAsciiAlphanumeric c

/-- The longest runs of ASCII letters and digits in a text, in order. -/
def words (s : List Char) : List (List Char) := (pieces s).filter (· ≠ [])

/-- A word: it is not empty and has ASCII letters and digits alone. -/
structure IsWord (w : List Char) : Prop where
  ne_nil : w ≠ []
  letters : ∀ c ∈ w, isAsciiAlphanumeric c = true

/-- A word in small letters. -/
def lowered (w : List Char) : List Char := w.map Char.toLower

variable {c : Char} {s w : List Char}

lemma IsWord.lowered (h : IsWord w) : IsWord (lowered w) where
  ne_nil := by simpa [RuleId.lowered] using h.ne_nil
  letters := by
    intro c hc
    obtain ⟨x, hx, rfl⟩ := List.mem_map.mp hc
    exact (toLower_of_letter (h.letters x hx)).2.1

lemma IsWord.lowered_lowered (h : IsWord w) :
    RuleId.lowered (RuleId.lowered w) = RuleId.lowered w := by
  rw [RuleId.lowered, RuleId.lowered, List.map_map]
  exact List.map_congr_left fun c hc => (toLower_of_letter (h.letters c hc)).2.2

lemma pieces_cons_of_other (hc : isAsciiAlphanumeric c = false) (s : List Char) :
    pieces (c :: s) = [] :: pieces s := by
  rw [pieces, List.splitOnP_cons_eq_if_modifyHead, if_pos (by simpa using hc), pieces]

/-- A letter belongs to the piece that the text behind it starts with. -/
lemma exists_pieces_cons_of_letter (hc : isAsciiAlphanumeric c = true) (s : List Char) :
    ∃ p rest, pieces s = p :: rest ∧ pieces (c :: s) = (c :: p) :: rest := by
  obtain ⟨p, rest, h⟩ := List.exists_cons_of_ne_nil
    (List.splitOnP_ne_nil (fun c => !isAsciiAlphanumeric c) s)
  refine ⟨p, rest, h, ?_⟩
  rw [pieces, List.splitOnP_cons_eq_if_modifyHead, if_neg (by simpa using hc), h,
    List.modifyHead_cons]

lemma letters_of_mem_pieces (hw : w ∈ pieces s) : ∀ c ∈ w, isAsciiAlphanumeric c = true := by
  induction s generalizing w with
  | nil =>
    rw [List.mem_singleton.mp hw]
    exact List.forall_mem_nil _
  | cons c s ih =>
    cases hc : isAsciiAlphanumeric c with
    | false =>
      rw [pieces_cons_of_other hc] at hw
      rcases List.mem_cons.mp hw with rfl | hw
      · exact List.forall_mem_nil _
      · exact ih hw
    | true =>
      obtain ⟨p, rest, hs, hcons⟩ := exists_pieces_cons_of_letter hc s
      rw [hs] at ih
      rw [hcons] at hw
      rcases List.mem_cons.mp hw with rfl | hw
      · exact List.forall_mem_cons.mpr ⟨hc, ih List.mem_cons_self⟩
      · exact ih (List.mem_cons_of_mem p hw)

lemma isWord_of_mem_words (hw : w ∈ words s) : IsWord w := by
  obtain ⟨hmem, hne⟩ := List.mem_filter.mp hw
  exact ⟨of_decide_eq_true hne, letters_of_mem_pieces hmem⟩

/-- A separator divides the words before it from those behind it. -/
lemma words_append_cons (hc : isAsciiAlphanumeric c = false) (s t : List Char) :
    words (s ++ c :: t) = words s ++ words t := by
  rw [words, pieces, List.splitOnP_append_cons s t (by simpa using hc), List.filter_append]
  rfl

lemma words_of_isWord (h : IsWord w) : words w = [w] := by
  rw [words, pieces, List.splitOnP_eq_singleton (by simpa using h.letters),
    List.filter_cons_of_pos (by simpa using h.ne_nil), List.filter_nil]

/-- Words that are joined by hyphens are the words of what they are joined to. -/
lemma words_intercalate {ws : List (List Char)} (h : ∀ w ∈ ws, IsWord w) :
    words (['-'].intercalate ws) = ws := by
  induction ws with
  | nil => rfl
  | cons w rest ih =>
    obtain ⟨hw, hrest⟩ := List.forall_mem_cons.mp h
    by_cases hnil : rest = []
    · rw [hnil, List.intercalate_singleton, words_of_isWord hw]
    · rw [List.intercalate_cons_of_ne_nil hnil, List.append_assoc, List.singleton_append,
        words_append_cons (by decide), words_of_isWord hw, ih hrest, List.singleton_append]

/-! ## The pass over a token -/

/-- Words in small letters, each with a hyphen before it. -/
def marked (ws : List (List Char)) : List Char := ws.flatMap fun w => '-' :: lowered w

lemma intercalate_eq_marked (w : List Char) (ws : List (List Char)) :
    ['-'].intercalate ((w :: ws).map lowered) = lowered w ++ marked ws := by
  induction ws generalizing w with
  | nil => simp [marked]
  | cons w' rest ih =>
    rw [List.map_cons, List.intercalate_cons_of_ne_nil (by simp), ih, List.append_assoc]
    rfl

/-- What is written behind a first letter: the rest of its word and then the words that follow, or
only the words that follow if a separator has been passed. -/
lemma slugRest_eq {p : List Char} {rest : List (List Char)} (h : pieces s = p :: rest) :
    slugRest false s = lowered p ++ marked (rest.filter (· ≠ [])) ∧
      slugRest true s = marked (words s) := by
  induction s generalizing p rest with
  | nil =>
    cases h
    exact ⟨rfl, rfl⟩
  | cons c s ih =>
    cases hc : isAsciiAlphanumeric c with
    | false =>
      -- the word ends here, and a hyphen waits for the next one
      rw [pieces_cons_of_other hc] at h
      cases h
      have hwords : words (c :: s) = words s := words_append_cons hc [] s
      obtain ⟨p, rest, hs⟩ := List.exists_cons_of_ne_nil (List.splitOnP_ne_nil _ s)
      rw [slugRest_cons_of_other hc, slugRest_cons_of_other hc, (ih hs).2, hwords]
      exact ⟨rfl, rfl⟩
    | true =>
      obtain ⟨p', rest', hs, hcons⟩ := exists_pieces_cons_of_letter hc s
      have hwords : words (c :: s) = (c :: p') :: rest'.filter (· ≠ []) := by
        rw [words, hcons, List.filter_cons_of_pos (by simp)]
      rw [hcons] at h
      cases h
      rw [slugRest_cons_of_letter hc, slugRest_cons_of_letter hc, (ih hs).1, hwords]
      exact ⟨rfl, rfl⟩

/-- The pass writes the words of a text, in small letters and joined by hyphens. -/
theorem slugChars_eq (s : List Char) : slugChars s = ['-'].intercalate ((words s).map lowered) := by
  induction s with
  | nil => rfl
  | cons c s ih =>
    cases hc : isAsciiAlphanumeric c with
    | false =>
      have hwords : words (c :: s) = words s := words_append_cons hc [] s
      rw [slugChars, List.dropWhile_cons_of_pos (by simpa using hc), ← slugChars, ih, hwords]
    | true =>
      obtain ⟨p, rest, -, hcons⟩ := exists_pieces_cons_of_letter hc s
      have hwords : words (c :: s) = (c :: p) :: rest.filter (· ≠ []) := by
        rw [words, hcons, List.filter_cons_of_pos (by simp)]
      rw [slugChars, List.dropWhile_cons_of_neg (by simpa using hc), (slugRest_eq hcons).1, hwords,
        intercalate_eq_marked]

lemma isWord_of_mem_lowered (hw : w ∈ (words s).map lowered) : IsWord w := by
  obtain ⟨x, hx, rfl⟩ := List.mem_map.mp hw
  exact (isWord_of_mem_words hx).lowered

/-- The words of a slug are those of its token, in small letters. -/
lemma words_slugChars (s : List Char) : words (slugChars s) = (words s).map lowered := by
  rw [slugChars_eq, words_intercalate fun w => isWord_of_mem_lowered]

lemma slugChars_slugChars (s : List Char) : slugChars (slugChars s) = slugChars s := by
  rw [slugChars_eq, words_slugChars, List.map_map, slugChars_eq s]
  congr 1
  exact List.map_congr_left fun w hw => (isWord_of_mem_words hw).lowered_lowered

/-! ## Hyphens -/

/-- A text of small letters, digits and hyphens, with no hyphen at its ends and no two of them in a
row. -/
structure Hyphenated (s : List Char) : Prop where
  small : ∀ c ∈ s, IsSmall c ∨ c = '-'
  head : s.head? ≠ some '-'
  last : s.getLast? ≠ some '-'
  apart : s.IsChain fun a b => ¬(a = '-' ∧ b = '-')

lemma ne_hyphen_of_isSmall (h : IsSmall c) : c ≠ '-' := by
  rintro rfl
  exact absurd h (by decide)

lemma hyphenated_of_isSmall (h : ∀ c ∈ s, IsSmall c) : Hyphenated s where
  small c hc := .inl (h c hc)
  head heq := ne_hyphen_of_isSmall (h _ (List.mem_of_head? heq)) rfl
  last heq := ne_hyphen_of_isSmall (h _ (List.mem_of_getLast? heq)) rfl
  apart := by
    refine List.isChain_iff_forall_rel_of_append_cons_cons.mpr ?_
    rintro a b before after rfl ⟨rfl, -⟩
    exact ne_hyphen_of_isSmall (h '-' (by simp)) rfl

/-- Two texts that are joined by a hyphen. -/
lemma Hyphenated.join {t : List Char} (hs : Hyphenated s) (ht : Hyphenated t) (hs' : s ≠ [])
    (ht' : t ≠ []) : Hyphenated (s ++ '-' :: t) where
  small := by
    rw [List.forall_mem_append]
    exact ⟨hs.small, List.forall_mem_cons.mpr ⟨.inr rfl, ht.small⟩⟩
  head := by
    rw [List.head?_append_of_ne_nil _ hs']
    exact hs.head
  last := by
    rw [List.getLast?_append_of_ne_nil _ (List.cons_ne_nil _ _), List.getLast?_cons_of_ne_nil ht']
    exact ht.last
  apart := by
    rw [List.isChain_append]
    refine ⟨hs.apart, List.isChain_cons.mpr ⟨?_, ht.apart⟩, ?_⟩
    · rintro b hb ⟨-, rfl⟩
      exact ht.head hb
    · rintro a ha b hb ⟨rfl, -⟩
      exact hs.last ha

lemma hyphenated_intercalate {ws : List (List Char)} (h : ∀ w ∈ ws, IsWord w)
    (hsmall : ∀ w ∈ ws, ∀ c ∈ w, IsSmall c) : Hyphenated (['-'].intercalate ws) := by
  induction ws with
  | nil => exact hyphenated_of_isSmall (List.forall_mem_nil _)
  | cons w rest ih =>
    obtain ⟨hw, hrest⟩ := List.forall_mem_cons.mp h
    obtain ⟨hwsmall, hrestsmall⟩ := List.forall_mem_cons.mp hsmall
    by_cases hnil : rest = []
    · rw [hnil, List.intercalate_singleton]
      exact hyphenated_of_isSmall hwsmall
    · have hjoined : ['-'].intercalate rest ≠ [] := by
        intro hempty
        rw [← words_intercalate hrest, hempty] at hnil
        exact hnil rfl
      rw [List.intercalate_cons_of_ne_nil hnil, List.append_assoc, List.singleton_append]
      exact (hyphenated_of_isSmall hwsmall).join (ih hrest hrestsmall) hw.ne_nil hjoined

lemma hyphenated_slugChars (s : List Char) : Hyphenated (slugChars s) := by
  rw [slugChars_eq]
  refine hyphenated_intercalate (fun w => isWord_of_mem_lowered) fun w hw => ?_
  obtain ⟨x, hx, rfl⟩ := List.mem_map.mp hw
  intro c hc
  obtain ⟨y, hy, rfl⟩ := List.mem_map.mp hc
  exact (toLower_of_letter ((isWord_of_mem_words hx).letters y hy)).1

/-! ## Slugs -/

/-- The words of a token, in small letters. -/
def smallWords (token : String) : List String :=
  (words token.toList).map fun w => String.ofList (lowered w)

lemma slug_eq_intercalate (token : String) : slug token = "-".intercalate (smallWords token) := by
  have hwords : (smallWords token).map String.toList = (words token.toList).map lowered := by
    rw [smallWords, List.map_map]
    exact List.map_congr_left fun w _ => String.toList_ofList
  rw [slug, slugChars_eq, ← String.toList_inj, String.toList_ofList, String.toList_intercalate,
    hwords]
  rfl

lemma slug_eq_empty_iff (token : String) :
    slug token = "" ↔ ∀ c ∈ token.toList, isAsciiAlphanumeric c = false := by
  rw [slug, ← String.toList_inj, String.toList_ofList, String.toList_empty, slugChars_eq_nil_iff]

lemma smallWords_ne_nil {token : String} (h : slug token ≠ "") : smallWords token ≠ [] := by
  intro hnil
  rw [slug_eq_intercalate, hnil] at h
  exact h rfl

/-- A separator between two tokens becomes one hyphen. -/
lemma slug_append_separator {a b : String} (hc : isAsciiAlphanumeric c = false) (ha : slug a ≠ "")
    (hb : slug b ≠ "") : slug (a ++ String.singleton c ++ b) = slug a ++ "-" ++ slug b := by
  have hwords : smallWords (a ++ String.singleton c ++ b) = smallWords a ++ smallWords b := by
    rw [smallWords, String.toList_append, String.toList_append, String.toList_singleton,
      List.append_assoc, List.singleton_append, words_append_cons hc, List.map_append]
    rfl
  rw [slug_eq_intercalate, hwords, String.intercalate_append_of_ne_nil (smallWords_ne_nil ha)
    (smallWords_ne_nil hb), ← slug_eq_intercalate, ← slug_eq_intercalate]

/-- **A slug is the words of its token in small letters, joined by hyphens.**  So it has small
letters, digits and hyphens alone, no hyphen at its ends and no two of them in a row; it is empty
just when the token has no ASCII letter or digit; it is its own slug; and a separator between two
tokens that have slugs becomes one hyphen between these. -/
theorem slug_joins_words (token : String) :
    slug token = "-".intercalate (smallWords token) ∧
    (∀ c ∈ (slug token).toList, ('a' ≤ c ∧ c ≤ 'z') ∨ ('0' ≤ c ∧ c ≤ '9') ∨ c = '-') ∧
    (slug token).toList.head? ≠ some '-' ∧ (slug token).toList.getLast? ≠ some '-' ∧
    (∀ before after, (slug token).toList ≠ before ++ '-' :: '-' :: after) ∧
    (slug token = "" ↔ ∀ c ∈ token.toList, isAsciiAlphanumeric c = false) ∧
    slug (slug token) = slug token ∧
    ∀ (c : Char) (other : String), isAsciiAlphanumeric c = false → slug token ≠ "" →
      slug other ≠ "" →
        slug (token ++ String.singleton c ++ other) = slug token ++ "-" ++ slug other := by
  have hchars : (slug token).toList = slugChars token.toList := by rw [slug, String.toList_ofList]
  have hshape := hyphenated_slugChars token.toList
  rw [← hchars] at hshape
  refine ⟨slug_eq_intercalate token, fun c hc => ?_, hshape.head, hshape.last, ?_,
    slug_eq_empty_iff token, ?_, fun c other => slug_append_separator⟩
  · exact or_assoc.mp (hshape.small c hc)
  · intro before after heq
    exact List.isChain_iff_forall_rel_of_append_cons_cons.mp hshape.apart heq ⟨rfl, rfl⟩
  · rw [slug, hchars, slugChars_slugChars, slug]

/-- A point between the parts of a name becomes one hyphen. -/
theorem slug_of_dotted_name :
    isAsciiAlphanumeric '.' = false ∧ slug "HBRequest" ≠ "" ∧ slug "logger(_:)" ≠ "" ∧
      slug ("HBRequest" ++ String.singleton '.' ++ "logger(_:)")
        = slug "HBRequest" ++ "-" ++ slug "logger(_:)" := by
  have hfirst : slug "HBRequest" ≠ "" := by decide
  have hsecond : slug "logger(_:)" ≠ "" := by decide
  have hjoined := (slug_joins_words "HBRequest").2.2.2.2.2.2.2 '.' "logger(_:)" (by decide) hfirst
    hsecond
  exact ⟨by decide, hfirst, hsecond, hjoined⟩

end Deprecation.RuleId
