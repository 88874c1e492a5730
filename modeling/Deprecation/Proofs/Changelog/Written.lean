/-
# Headings as they are written

A heading is read part by part, and each part takes as much as it can.  So a label is read as it
was written only if nothing that follows can be taken for more of it: neither the bracket that
closes, nor the parenthesis of a link, nor a blank can stand in a label.  And what may precede the
label, a bracket and a `v`, is no digit, while every label starts with one.
-/
import Mathlib
import Deprecation.Proofs.Changelog.Headings
import Deprecation.Proofs.Changelog.Pieces

namespace Deprecation.Changelog

open Text

variable {r s : List Char}

/-! ## Labels as they are written -/

/-- One digit or more. -/
def IsNumber (d : List Char) : Prop :=
  d ≠ [] ∧ ∀ c ∈ d, isDigit c = true

lemma isNumber_digit {c : Char} (h : isDigit c = true) : IsNumber [c] := by
  refine ⟨List.cons_ne_nil c [], ?_⟩
  intro d hd
  rwa [List.mem_singleton.mp hd]

/-- A version label: a number, more numbers behind dots, and perhaps a tag behind a dash. -/
structure Label where
  major : List Char
  minors : List (List Char)
  /-- The tag; without characters there is none. -/
  tag : List Char
  major_number : IsNumber major
  minors_numbers : ∀ d ∈ minors, IsNumber d
  tag_chars : ∀ c ∈ tag, isTagChar c = true

namespace Label

/-- The numbers behind dots. -/
def dotted (minors : List (List Char)) : List Char := minors.flatMap ('.' :: ·)

/-- The tag with its dash, if there is one. -/
def dashed (tag : List Char) : List Char := if tag = [] then [] else '-' :: tag

/-- The characters of a label. -/
def spelled (v : Label) : List Char := v.major ++ dotted v.minors ++ dashed v.tag

end Label

/-- A list that does not go on with a character of a certain kind. -/
def StartsWithout (p : Char → Bool) (s : List Char) : Prop :=
  ∀ c, s.head? = some c → p c = false

lemma startsWithout_cons {p : Char → Bool} {c : Char} (h : p c = false) (s : List Char) :
    StartsWithout p (c :: s) := by
  intro d hd
  rwa [← Option.some.inj hd]

lemma takeWhile_append_stop {p : Char → Bool} (hs : ∀ c ∈ s, p c = true) (hr : StartsWithout p r) :
    (s ++ r).takeWhile p = s ∧ (s ++ r).dropWhile p = r := by
  rw [List.takeWhile_append_of_pos hs, List.dropWhile_append_of_pos hs]
  cases r with
  | nil => simp
  | cons c r =>
    have hc : ¬ p c = true := by rw [hr c rfl]; exact Bool.false_ne_true
    rw [List.takeWhile_cons_of_neg hc, List.dropWhile_cons_of_neg hc, List.append_nil]
    exact ⟨rfl, rfl⟩

lemma takeDigits_append (hs : IsNumber s) (hr : StartsWithout isDigit r) :
    takeDigits (s ++ r) = some (s, r) := by
  obtain ⟨htake, hdrop⟩ := takeWhile_append_stop hs.2 hr
  simp [takeDigits, htake, hdrop, hs.1]

lemma takeDottedDigits_of_stop (hdot : r.head? ≠ some '.') : takeDottedDigits r = ([], r) := by
  rw [takeDottedDigits.eq_def]
  split
  · exact absurd rfl hdot
  · rfl

/-- What may follow a label: no character that could be more of it. -/
abbrev EndsLabel (r : List Char) : Prop := StartsWithout isLabelChar r

lemma EndsLabel.startsWithout_isDigit (hr : EndsLabel r) : StartsWithout isDigit r := by
  intro c hc
  exact (Bool.or_eq_false_iff.mp (hr c hc)).1

lemma EndsLabel.startsWithout_isTagChar (hr : EndsLabel r) : StartsWithout isTagChar r := by
  intro c hc
  exact (Bool.or_eq_false_iff.mp (hr c hc)).2

lemma EndsLabel.head?_ne {c : Char} (hr : EndsLabel r) (hc : isLabelChar c = true) :
    r.head? ≠ some c := by
  intro h
  rw [hr c h] at hc
  cases hc

/-- Behind the numbers of a label there is a dash or what ends the label. -/
lemma head_dashed_append (tag : List Char) (hr : EndsLabel r) :
    StartsWithout isDigit (Label.dashed tag ++ r) ∧ (Label.dashed tag ++ r).head? ≠ some '.' := by
  rw [Label.dashed]
  split
  · exact ⟨hr.startsWithout_isDigit, hr.head?_ne (by decide)⟩
  · exact ⟨startsWithout_cons (by decide) _, by simp⟩

lemma startsWithout_isDigit_dotted (minors : List (List Char)) (hr : StartsWithout isDigit r) :
    StartsWithout isDigit (Label.dotted minors ++ r) := by
  cases minors with
  | nil => exact hr
  | cons d minors => exact startsWithout_cons (by decide) _

lemma takeDottedDigits_append {minors : List (List Char)} (hminors : ∀ d ∈ minors, IsNumber d)
    (hr : StartsWithout isDigit r) (hdot : r.head? ≠ some '.') :
    takeDottedDigits (Label.dotted minors ++ r) = (Label.dotted minors, r) := by
  induction minors with
  | nil => exact takeDottedDigits_of_stop hdot
  | cons d minors ih =>
    have hd := takeDigits_append (hminors d List.mem_cons_self)
      (startsWithout_isDigit_dotted minors hr)
    have hrest := ih fun d' hd' => hminors d' (List.mem_cons_of_mem d hd')
    have hsplit : Label.dotted (d :: minors) ++ r = '.' :: (d ++ (Label.dotted minors ++ r)) := by
      simp [Label.dotted]
    rw [hsplit, takeDottedDigits.eq_def]
    split
    · next heq =>
      obtain ⟨-, rfl⟩ := List.cons.inj heq
      split
      · next digits rest' hdigits =>
        rw [hd] at hdigits
        cases hdigits
        rw [hrest]
        simp [Label.dotted]
      · next hnone =>
        rw [hd] at hnone
        cases hnone
    · next hother => exact absurd rfl (hother _)

lemma takeTag_append {tag : List Char} (htag : ∀ c ∈ tag, isTagChar c = true) (hr : EndsLabel r) :
    takeTag (Label.dashed tag ++ r) = (Label.dashed tag, r) := by
  rw [Label.dashed]
  split
  · have hdash : r.head? ≠ some '-' := hr.head?_ne (by decide)
    rw [List.nil_append, takeTag.eq_def]
    split
    · exact absurd rfl hdash
    · rfl
  · next hne =>
    obtain ⟨htake, hdrop⟩ := takeWhile_append_stop htag hr.startsWithout_isTagChar
    simp [takeTag, htake, hdrop, hne]

/-- A label is read as it is written. -/
theorem takeVersion_append (v : Label) (hr : EndsLabel r) :
    takeVersion (v.spelled ++ r) = some (v.spelled, r) := by
  obtain ⟨hdigit, hdot⟩ := head_dashed_append v.tag hr
  have hmajor := takeDigits_append v.major_number
    (startsWithout_isDigit_dotted v.minors hdigit)
  have hminors := takeDottedDigits_append v.minors_numbers hdigit hdot
  have htag := takeTag_append v.tag_chars hr
  simp [takeVersion, Label.spelled, List.append_assoc, hmajor, hminors, htag]

lemma isLabelChar_of_mem_spelled {v : Label} {c : Char} (hc : c ∈ v.spelled) :
    isLabelChar c = true := by
  have hread : takeVersion (v.spelled ++ []) = some (v.spelled, []) :=
    takeVersion_append v (by simp [StartsWithout])
  exact List.all_eq_true.mp (all_of_takeVersion hread) c hc

lemma notMem_spelled {v : Label} {c : Char} (hc : isLabelChar c = false) : c ∉ v.spelled := by
  intro hmem
  rw [isLabelChar_of_mem_spelled hmem] at hc
  cases hc

/-! ## Headings as they are written -/

lemma dropOptional_append {c : Char} {opening : List Char} (h : opening = [] ∨ opening = [c])
    (hs : s.head? ≠ some c) : dropOptional c (opening ++ s) = s := by
  rcases h with rfl | rfl
  · cases s with
    | nil => rfl
    | cons d s =>
      have hd : d ≠ c := fun heq => hs (by rw [heq]; rfl)
      rw [List.nil_append, dropOptional, if_neg hd]
  · rw [List.singleton_append, dropOptional, if_pos rfl]

/-- A link target in parentheses, or none. -/
def IsTarget (target : List Char) : Prop :=
  target = [] ∨ ∃ url, ')' ∉ url ∧ target = '(' :: url ++ [')']

lemma dropTarget_append {target : List Char} (h : IsTarget target) (hr : r.head? ≠ some '(') :
    dropTarget (target ++ r) = some r := by
  rcases h with rfl | ⟨url, hurl, rfl⟩
  · rw [List.nil_append, dropTarget.eq_def]
    split
    · exact absurd rfl hr
    · rfl
  · have hall : ∀ c ∈ url, decide (c ≠ ')') = true := by
      intro c hc
      exact decide_eq_true fun heq => hurl (heq ▸ hc)
    have hopen : '(' :: url ++ [')'] ++ r = '(' :: (url ++ ')' :: r) := by simp
    have hdrop : (url ++ ')' :: r).dropWhile (· ≠ ')') = ')' :: r := by
      rw [List.dropWhile_append_of_pos hall]
      simp
    rw [hopen, dropTarget, hdrop]

/-- At a blank or at the end no label goes on, and no target is opened. -/
lemma endsLabel_of_atGapOrEnd (hr : atGapOrEnd r = true) :
    EndsLabel r ∧ r.head? ≠ some '(' := by
  cases r with
  | nil => exact ⟨by simp [StartsWithout], by simp⟩
  | cons c r =>
    have hblank : isBlank c = true := hr
    refine ⟨startsWithout_cons ?_ r, ?_⟩
    · by_contra hlabel
      rw [isBlank_of_isLabelChar (Bool.not_eq_false _ ▸ hlabel)] at hblank
      cases hblank
    · intro hc
      rw [Option.some.inj hc] at hblank
      exact absurd hblank (by decide)

lemma endsLabel_append {closing target : List Char} (hclosing : closing = [] ∨ closing = [']'])
    (htarget : IsTarget target) (hr : atGapOrEnd r = true) :
    EndsLabel (closing ++ (target ++ r)) ∧ (target ++ r).head? ≠ some ']' := by
  have hbracket : (target ++ r).head? ≠ some ']' := by
    rcases htarget with rfl | ⟨url, -, rfl⟩
    · intro hhead
      cases r with
      | nil => cases hhead
      | cons c r =>
        have hblank : isBlank c = true := hr
        rw [Option.some.inj hhead] at hblank
        exact absurd hblank (by decide)
    · simp
  refine ⟨?_, hbracket⟩
  rcases hclosing with rfl | rfl
  · rcases htarget with rfl | ⟨url, -, rfl⟩
    · exact (endsLabel_of_atGapOrEnd hr).1
    · exact startsWithout_cons (by decide) _
  · exact startsWithout_cons (by decide) _

/-- A label starts with a digit. -/
lemma head_spelled_append (v : Label) (s : List Char) :
    ∃ c, (v.spelled ++ s).head? = some c ∧ isDigit c = true := by
  obtain ⟨c, d, hd⟩ := List.exists_cons_of_ne_nil v.major_number.1
  refine ⟨c, by simp [Label.spelled, hd], v.major_number.2 c ?_⟩
  rw [hd]
  exact List.mem_cons_self

/-- The signs of a heading end where its gap begins. -/
lemma takeWhile_marks_append {gap : List Char} (hgap : IsGap gap) (n : Nat) (s : List Char) :
    (List.replicate n '#' ++ (gap ++ s)).takeWhile (· = '#') = List.replicate n '#' ∧
      (List.replicate n '#' ++ (gap ++ s)).dropWhile (· = '#') = gap ++ s := by
  have hmarks : ∀ c ∈ List.replicate n '#', decide (c = '#') = true := by
    intro c hc
    exact decide_eq_true (List.eq_of_mem_replicate hc)
  refine takeWhile_append_stop hmarks ?_
  obtain ⟨b, g, rfl⟩ := List.exists_cons_of_ne_nil hgap.1
  have hblank : isBlank b = true := hgap.2 b List.mem_cons_self
  refine startsWithout_cons (decide_eq_false fun heq => ?_) _
  rw [heq] at hblank
  exact absurd hblank (by decide)

/-- What may precede a label is taken off, since the label starts with a digit. -/
lemma dropOptional_before {opening lead : List Char} (hopening : opening = [] ∨ opening = ['['])
    (hlead : lead = [] ∨ lead = ['v']) {c : Char} (hc : s.head? = some c)
    (hdigit : isDigit c = true) :
    dropOptional 'v' (dropOptional '[' (opening ++ (lead ++ s))) = s ∧
      StartsSolid (opening ++ (lead ++ s)) := by
  have hnot : ∀ d, isDigit d = false → s.head? ≠ some d := by
    intro d hd hhead
    rw [hc] at hhead
    rw [← Option.some.inj hhead, hdigit] at hd
    cases hd
  constructor
  · have hbracket : (lead ++ s).head? ≠ some '[' := by
      rcases hlead with rfl | rfl
      · exact hnot '[' (by decide)
      · simp
    rw [dropOptional_append hopening hbracket, dropOptional_append hlead (hnot 'v' (by decide))]
  · intro d hd
    rcases hopening with rfl | rfl
    · rcases hlead with rfl | rfl
      · rw [List.nil_append, List.nil_append, hc] at hd
        rw [← Option.some.inj hd]
        exact isBlank_of_isDigit hdigit
      · rw [← Option.some.inj hd]
        decide
    · rw [← Option.some.inj hd]
      decide

/-- Up to three signs and a gap, the label in brackets or not and behind a `v` or not, perhaps a
target, and then a blank or the end: this is a heading with the label. -/
theorem headingVersion_append {n : Nat} (hpos : 1 ≤ n) (hthree : n ≤ 3) {gap : List Char}
    (hgap : IsGap gap) {opening lead closing target : List Char}
    (hopening : opening = [] ∨ opening = ['[']) (hlead : lead = [] ∨ lead = ['v'])
    (v : Label) (hclosing : closing = [] ∨ closing = [']']) (htarget : IsTarget target)
    (hr : atGapOrEnd r = true) :
    headingVersion (List.replicate n '#' ++ (gap ++ (opening ++ (lead ++ (v.spelled ++
      (closing ++ (target ++ r))))))) = some v.spelled := by
  obtain ⟨hends, hbracket⟩ := endsLabel_append hclosing htarget hr
  obtain ⟨c, hc, hdigit⟩ := head_spelled_append v (closing ++ (target ++ r))
  obtain ⟨hlabel, hsolid⟩ := dropOptional_before hopening hlead hc hdigit
  obtain ⟨htake, hdrop⟩ := takeWhile_marks_append hgap n
    (opening ++ (lead ++ (v.spelled ++ (closing ++ (target ++ r)))))
  have hskip := dropGap_eq_some_iff.mpr ⟨gap, hgap, hsolid, rfl⟩
  have hrest := dropTarget_append htarget (endsLabel_of_atGapOrEnd hr).2
  have hcount : ¬ ((List.replicate n '#').length = 0 ∨ 3 < (List.replicate n '#').length) := by
    rw [List.length_replicate]
    omega
  rw [headingVersion]
  dsimp only
  rw [htake, hdrop, if_neg hcount, hskip]
  simp [hlabel, takeVersion_append v hends, dropOptional_append hclosing hbracket, hrest, hr]

end Deprecation.Changelog
