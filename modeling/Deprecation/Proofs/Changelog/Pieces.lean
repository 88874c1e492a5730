/-
# What the pieces of a sentence are

The readers of a release note take a piece from the front of a list of characters: a word, a
gap, a quoted token.  Each of them is told here by what it takes, in both directions, so that
the templates can be treated as a grammar and no reader has to be opened again.  Two of them
could take more or less than they do: a gap goes on to the first character that is not blank,
and a quoted token to the first backtick.  It is therefore essential that a word starts with no
blank and that a token has no backtick.

The last section is about readers that are tried along a line, from left to right.
-/
import Mathlib
import Deprecation.Changelog.Template
import Deprecation.Proofs.Text.Trim

namespace Deprecation.Changelog

open Text

variable {s r : List Char}

/-! ## Words -/

lemma dropWord_eq_some_iff {word : List Char} : dropWord word s = some r ↔ s = word ++ r := by
  induction word generalizing s with
  | nil => rw [dropWord, Option.some.injEq, List.nil_append]
  | cons w word ih =>
    cases s with
    | nil => simp [dropWord]
    | cons c s =>
      rw [dropWord, List.cons_append, List.cons.injEq]
      split
      · next h => rw [ih, and_iff_right h]
      · next h => simp [h]

/-- A word is read whatever the case of its letters. -/
lemma dropWordAnyCase_eq_some_iff {word : List Char} :
    dropWordAnyCase word s = some r ↔ ∃ spelt, spelt.map Char.toLower = word ∧ s = spelt ++ r := by
  induction word generalizing s with
  | nil =>
    rw [dropWordAnyCase, Option.some.injEq]
    constructor
    · intro h
      exact ⟨[], rfl, h⟩
    · rintro ⟨spelt, hspelt, rfl⟩
      rw [List.map_eq_nil_iff.mp hspelt, List.nil_append]
  | cons w word ih =>
    cases s with
    | nil =>
      rw [dropWordAnyCase]
      constructor
      · intro h
        cases h
      · rintro ⟨spelt, hspelt, heq⟩
        rw [(List.append_eq_nil_iff.mp heq.symm).1] at hspelt
        cases hspelt
    | cons c s =>
      rw [dropWordAnyCase]
      constructor
      · intro h
        split at h
        · next hc =>
          obtain ⟨spelt, hspelt, rfl⟩ := ih.mp h
          exact ⟨c :: spelt, by rw [List.map_cons, hc, hspelt], rfl⟩
        · cases h
      · rintro ⟨spelt, hspelt, heq⟩
        obtain ⟨c', spelt, rfl, hc, hrest⟩ := List.map_eq_cons_iff.mp hspelt
        obtain ⟨rfl, rfl⟩ := List.cons.inj heq
        rw [if_pos hc]
        exact ih.mpr ⟨spelt, hrest, rfl⟩

/-! ## Gaps -/

/-- One blank or more. -/
def IsGap (g : List Char) : Prop :=
  g ≠ [] ∧ ∀ c ∈ g, isBlank c = true

/-- A list that goes on with no blank. -/
def StartsSolid (s : List Char) : Prop :=
  ∀ c, s.head? = some c → isBlank c = false

lemma dropWhile_blank_append {g : List Char} (hg : ∀ c ∈ g, isBlank c = true) (hr : StartsSolid r) :
    (g ++ r).dropWhile isBlank = r := by
  rw [List.dropWhile_append_of_pos hg]
  cases r with
  | nil => rfl
  | cons c r => rw [List.dropWhile_cons_of_neg (by simp [hr c rfl])]

/-- Where blanks are dropped there were blanks, and none is left. -/
lemma exists_dropWhile_blank (s : List Char) :
    ∃ g, (∀ c ∈ g, isBlank c = true) ∧ s = g ++ s.dropWhile isBlank ∧
      StartsSolid (s.dropWhile isBlank) := by
  refine ⟨s.takeWhile isBlank, fun c hc => List.mem_takeWhile_imp hc,
    (List.takeWhile_append_dropWhile).symm, ?_⟩
  intro c hc
  have := List.head?_dropWhile_not isBlank s
  rw [hc] at this
  simpa using this

lemma dropGap_eq_some_iff :
    dropGap s = some r ↔ ∃ g, IsGap g ∧ StartsSolid r ∧ s = g ++ r := by
  cases s with
  | nil =>
    rw [dropGap]
    constructor
    · intro h
      cases h
    · rintro ⟨g, hg, -, heq⟩
      exact absurd (List.append_eq_nil_iff.mp heq.symm).1 hg.1
  | cons c s =>
    rw [dropGap]
    constructor
    · intro h
      split at h
      · next hc =>
        cases h
        obtain ⟨g, hg, heq, hsolid⟩ := exists_dropWhile_blank s
        refine ⟨c :: g, ⟨List.cons_ne_nil c g, ?_⟩, hsolid, congrArg (c :: ·) heq⟩
        intro d hd
        rcases List.mem_cons.mp hd with rfl | hd
        · exact hc
        · exact hg d hd
      · cases h
    · rintro ⟨g, ⟨hne, hg⟩, hsolid, heq⟩
      obtain ⟨d, g, rfl⟩ := List.exists_cons_of_ne_nil hne
      rw [List.cons_append] at heq
      obtain ⟨rfl, rfl⟩ := List.cons.inj heq
      rw [if_pos (hg c List.mem_cons_self),
        dropWhile_blank_append (fun d hd => hg d (List.mem_cons_of_mem c hd)) hsolid]

/-! ## Quoted tokens -/

/-- A token between backticks. -/
def quoted (token : List Char) : List Char :=
  '`' :: token ++ ['`']

lemma quoted_append (token s : List Char) : quoted token ++ s = '`' :: (token ++ '`' :: s) := by
  simp [quoted]

/-- Texts without backticks are told apart from what a backtick begins. -/
lemma append_backtick_inj {u v u' v' : List Char} (hu : '`' ∉ u) (hu' : '`' ∉ u')
    (h : u ++ '`' :: v = u' ++ '`' :: v') : u = u' ∧ v = v' := by
  induction u generalizing u' with
  | nil =>
    cases u' with
    | nil => exact ⟨rfl, (List.cons.inj h).2⟩
    | cons c u' => exact absurd (List.mem_cons.mpr (Or.inl (List.cons.inj h).1)) hu'
  | cons c u ih =>
    cases u' with
    | nil => exact absurd (List.mem_cons.mpr (Or.inl (List.cons.inj h).1.symm)) hu
    | cons c' u' =>
      rw [List.cons_append, List.cons_append] at h
      obtain ⟨rfl, htail⟩ := List.cons.inj h
      obtain ⟨rfl, rfl⟩ := ih (fun hc => hu (List.mem_cons_of_mem c hc))
        (fun hc => hu' (List.mem_cons_of_mem c hc)) htail
      exact ⟨rfl, rfl⟩

/-- The first token that is quoted is fixed, with what stands before and after it. -/
lemma append_quoted_inj {u u' x x' : List Char} {r r' : List Char} (hu : '`' ∉ u) (hu' : '`' ∉ u')
    (hx : '`' ∉ x) (hx' : '`' ∉ x') (h : u ++ quoted x ++ r = u' ++ quoted x' ++ r') :
    u = u' ∧ x = x' ∧ r = r' := by
  rw [List.append_assoc, List.append_assoc, quoted_append, quoted_append] at h
  obtain ⟨rfl, htail⟩ := append_backtick_inj hu hu' h
  obtain ⟨rfl, rfl⟩ := append_backtick_inj hx hx' htail
  exact ⟨rfl, rfl, rfl⟩

/-- Up to the next backtick, where there is one. -/
lemma exists_dropWhile_backtick {c : Char} (h : s.dropWhile (· ≠ '`') = c :: r) :
    '`' ∉ s.takeWhile (· ≠ '`') ∧ s = s.takeWhile (· ≠ '`') ++ '`' :: r := by
  have hmem : '`' ∉ s.takeWhile (· ≠ '`') := by
    intro hc
    simpa using List.mem_takeWhile_imp hc
  have hhead := List.head?_dropWhile_not (· ≠ '`') s
  rw [h] at hhead
  have hc : c = '`' := by simpa using hhead
  have hsplit := List.takeWhile_append_dropWhile (p := (· ≠ '`')) (l := s)
  rw [h, hc] at hsplit
  exact ⟨hmem, hsplit.symm⟩

lemma dropWhile_append_backtick {u : List Char} (hu : '`' ∉ u) (v : List Char) :
    (u ++ '`' :: v).dropWhile (· ≠ '`') = '`' :: v ∧ (u ++ '`' :: v).takeWhile (· ≠ '`') = u := by
  have hall : ∀ c ∈ u, decide (c ≠ '`') = true := by
    intro c hc
    exact decide_eq_true fun heq => hu (heq ▸ hc)
  rw [List.dropWhile_append_of_pos hall, List.takeWhile_append_of_pos hall]
  simp

lemma takeQuoted_eq_some_iff {x : List Char} :
    takeQuoted s = some (x, r) ↔ x ≠ [] ∧ '`' ∉ x ∧ s = quoted x ++ r := by
  constructor
  · intro h
    rw [takeQuoted.eq_def] at h
    split at h
    · next s =>
      dsimp only at h
      split at h
      · cases h
      · next c rest hrest =>
        split at h
        · cases h
        · next hne =>
          cases h
          obtain ⟨hx, hs⟩ := exists_dropWhile_backtick hrest
          refine ⟨by simpa using hne, hx, ?_⟩
          rw [quoted_append, ← hs]
    · cases h
  · rintro ⟨hne, hx, rfl⟩
    obtain ⟨hdrop, htake⟩ := dropWhile_append_backtick hx r
    rw [quoted_append, takeQuoted]
    simp only [hdrop, htake]
    rw [if_neg (by simpa using hne)]

/-! ## Along a line -/

section Along

variable {α : Type} {read : List Char → Option α} {a : α}

lemma firstAlong_of_some (h : read s = some a) : firstAlong read s = some a := by
  cases s with
  | nil => exact h
  | cons c s => rw [firstAlong, h]

/-- Where a reader fails at each place of a stretch, it goes on behind it. -/
lemma firstAlong_append {p : List Char}
    (h : ∀ u v, p = u ++ v → v ≠ [] → read (v ++ s) = none) :
    firstAlong read (p ++ s) = firstAlong read s := by
  induction p with
  | nil => rfl
  | cons c p ih =>
    have hhere : read (c :: (p ++ s)) = none := h [] (c :: p) rfl (List.cons_ne_nil c p)
    rw [List.cons_append, firstAlong, hhere]
    refine ih fun u v huv hv => ?_
    exact h (c :: u) v (by rw [huv, List.cons_append]) hv

lemma exists_of_firstAlong (h : firstAlong read s = some a) :
    ∃ p t, s = p ++ t ∧ read t = some a := by
  induction s with
  | nil => exact ⟨[], [], rfl, h⟩
  | cons c s ih =>
    rw [firstAlong] at h
    split at h
    · next b hb =>
      cases h
      exact ⟨[], c :: s, rfl, hb⟩
    · obtain ⟨p, t, rfl, ht⟩ := ih h
      exact ⟨c :: p, t, rfl, ht⟩

lemma exists_of_firstAtWordStart {before : Char} (h : firstAtWordStart read before s = some a) :
    ∃ p t, s = p ++ t ∧ read t = some a := by
  induction s generalizing before with
  | nil =>
    rw [firstAtWordStart] at h
    split at h
    · cases h
    · exact ⟨[], [], rfl, h⟩
  | cons c s ih =>
    rw [firstAtWordStart] at h
    split at h
    · next b hb =>
      cases h
      split at hb
      · cases hb
      · exact ⟨[], c :: s, rfl, hb⟩
    · obtain ⟨p, t, rfl, ht⟩ := ih h
      exact ⟨c :: p, t, rfl, ht⟩

/-- A reader that succeeds at the start of a word succeeds there or before. -/
lemma exists_firstAtWordStart {before : Char} {m t : List Char} (ht : read t = some a)
    (hm : isWord ((before :: m).getLast (List.cons_ne_nil before m)) = false) :
    ∃ b, firstAtWordStart read before (m ++ t) = some b := by
  induction m generalizing before with
  | nil =>
    have hbefore : isWord before = false := hm
    cases t with
    | nil => exact ⟨a, by rw [List.append_nil, firstAtWordStart, hbefore, if_neg (by simp), ht]⟩
    | cons c t =>
      refine ⟨a, ?_⟩
      rw [List.nil_append, firstAtWordStart, hbefore, if_neg (by simp), ht]
  | cons c m ih =>
    rw [List.getLast_cons (List.cons_ne_nil c m)] at hm
    rw [List.cons_append, firstAtWordStart]
    split
    · next b _ => exact ⟨b, rfl⟩
    · exact ih hm

end Along

end Deprecation.Changelog
