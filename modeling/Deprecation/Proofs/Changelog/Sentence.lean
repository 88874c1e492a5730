/-
# The sentences that are read

Each template is told here by what it reads, as a grammar: a line follows it just when it is put
together in a certain way.  The words of a template stand apart by gaps of any width, so a phrase
is a list of words with a gap before each and a gap behind the last one.  Since no word starts with
a blank, and a token starts with a backtick, a gap is never read too short or too long.

The templates for a renaming and a change say what stands at one place of a line, and the template
for a removal what opens it.
-/
import Mathlib
import Deprecation.Proofs.Changelog.Facts
import Deprecation.Proofs.Changelog.Pieces

namespace Deprecation.Changelog

open Text

variable {s r x y : List Char}

/-! ## Phrases -/

/-- Words one after the other, with a gap before each and a gap behind the last one. -/
inductive Phrase : List String → List Char → Prop
  | gap {g : List Char} (hg : IsGap g) : Phrase [] g
  | word {w : String} {ws : List String} {g m : List Char} (hg : IsGap g) (hm : Phrase ws m) :
    Phrase (w :: ws) (g ++ w.toList ++ m)

/-- The rest after a phrase. -/
def dropPhrase : List String → List Char → Option (List Char)
  | [], s => dropGap s
  | w :: ws, s => dropGapWord w s >>= dropPhrase ws

/-- A word whose first letter is no blank, so that a gap ends there. -/
def IsSolid (w : String) : Bool :=
  w.toList.head?.any fun c => !isBlank c

lemma startsSolid_append {w : String} (hw : IsSolid w = true) (s : List Char) :
    StartsSolid (w.toList ++ s) := by
  rw [IsSolid] at hw
  cases hl : w.toList with
  | nil =>
    rw [hl] at hw
    cases hw
  | cons c u =>
    rw [hl] at hw
    intro d hd
    cases hd
    simpa using hw

lemma dropGapWord_eq_some_iff {w : String} (hw : IsSolid w = true) :
    dropGapWord w s = some r ↔ ∃ g, IsGap g ∧ s = g ++ w.toList ++ r := by
  rw [dropGapWord, Option.bind_eq_bind, Option.bind_eq_some_iff]
  constructor
  · rintro ⟨t, ht, hr⟩
    obtain ⟨g, hg, -, rfl⟩ := dropGap_eq_some_iff.mp ht
    rw [dropWord_eq_some_iff.mp hr, ← List.append_assoc]
    exact ⟨g, hg, rfl⟩
  · rintro ⟨g, hg, rfl⟩
    refine ⟨w.toList ++ r, dropGap_eq_some_iff.mpr ⟨g, hg, startsSolid_append hw r, ?_⟩,
      dropWord_eq_some_iff.mpr rfl⟩
    rw [List.append_assoc]

/-- What is read is a phrase, and a phrase is read where no blank follows. -/
lemma dropPhrase_eq_some_iff {ws : List String} (hws : ∀ w ∈ ws, IsSolid w = true) :
    dropPhrase ws s = some r ↔ ∃ m, Phrase ws m ∧ StartsSolid r ∧ s = m ++ r := by
  induction ws generalizing s with
  | nil =>
    rw [dropPhrase, dropGap_eq_some_iff]
    constructor
    · rintro ⟨g, hg, hr, rfl⟩
      exact ⟨g, .gap hg, hr, rfl⟩
    · rintro ⟨m, hm, hr, rfl⟩
      cases hm with
      | gap hg => exact ⟨m, hg, hr, rfl⟩
  | cons w ws ih =>
    have hw := hws w List.mem_cons_self
    replace ih := fun s => ih (s := s) fun v hv => hws v (List.mem_cons_of_mem w hv)
    rw [dropPhrase, Option.bind_eq_bind, Option.bind_eq_some_iff]
    constructor
    · rintro ⟨t, ht, hr⟩
      obtain ⟨g, hg, rfl⟩ := (dropGapWord_eq_some_iff hw).mp ht
      obtain ⟨m, hm, hsolid, rfl⟩ := (ih t).mp hr
      exact ⟨g ++ w.toList ++ m, .word hg hm, hsolid, (List.append_assoc _ _ _).symm⟩
    · rintro ⟨m, hm, hsolid, rfl⟩
      cases hm with
      | @word _ _ g m hg hm =>
        refine ⟨m ++ r, (dropGapWord_eq_some_iff hw).mpr ⟨g, hg, ?_⟩,
          (ih _).mpr ⟨m, hm, hsolid, rfl⟩⟩
        rw [List.append_assoc]

/-! ## What each template reads -/

/-- A token that can stand between backticks. -/
def IsQuotable (x : List Char) : Prop :=
  x ≠ [] ∧ '`' ∉ x

lemma startsSolid_quoted (x s : List Char) : StartsSolid (quoted x ++ s) := by
  intro c hc
  cases hc
  decide

/-- What stands between the tokens of a renaming. -/
def IsRenaming (m : List Char) : Prop :=
  Phrase ["has", "been", "renamed", "to"] m

lemma renamedHere_eq_some_iff :
    renamedHere s = some (x, y) ↔ ∃ m r, IsQuotable x ∧ IsRenaming m ∧ IsQuotable y ∧
      s = quoted x ++ m ++ quoted y ++ r := by
  have hread : renamedHere s = (takeQuoted s >>= fun old =>
      dropPhrase ["has", "been", "renamed", "to"] old.2 >>= fun s =>
        takeQuoted s >>= fun new => pure (old.1, new.1)) := by
    simp only [renamedHere, dropPhrase, Option.bind_eq_bind, Option.bind_assoc]
  have hsolid : ∀ w ∈ ["has", "been", "renamed", "to"], IsSolid w = true := by decide
  rw [hread, Option.bind_eq_bind, Option.bind_eq_some_iff]
  constructor
  · rintro ⟨⟨old, s₁⟩, hold, h⟩
    obtain ⟨s₂, hphrase, h⟩ := Option.bind_eq_some_iff.mp h
    obtain ⟨⟨new, r⟩, hnew, h⟩ := Option.bind_eq_some_iff.mp h
    cases h
    obtain ⟨hxne, hx, rfl⟩ := takeQuoted_eq_some_iff.mp hold
    obtain ⟨m, hm, -, hs₁⟩ := (dropPhrase_eq_some_iff hsolid).mp hphrase
    obtain ⟨hyne, hy, rfl⟩ := takeQuoted_eq_some_iff.mp hnew
    refine ⟨m, r, ⟨hxne, hx⟩, hm, ⟨hyne, hy⟩, ?_⟩
    dsimp only at hs₁
    rw [hs₁, List.append_assoc, List.append_assoc]
  · rintro ⟨m, r, ⟨hxne, hx⟩, hm, ⟨hyne, hy⟩, rfl⟩
    refine ⟨(x, m ++ (quoted y ++ r)), takeQuoted_eq_some_iff.mpr ⟨hxne, hx, ?_⟩, ?_⟩
    · rw [List.append_assoc, List.append_assoc]
    · refine Option.bind_eq_some_iff.mpr ⟨quoted y ++ r,
        (dropPhrase_eq_some_iff hsolid).mpr ⟨m, hm, startsSolid_quoted y r, rfl⟩, ?_⟩
      exact Option.bind_eq_some_iff.mpr
        ⟨(y, r), takeQuoted_eq_some_iff.mpr ⟨hyne, hy, rfl⟩, rfl⟩

/-- What stands behind the word `deprecated` in a change. -/
def IsFavor (m : List Char) : Prop :=
  Phrase ["in", "favor", "of"] m ∨ Phrase ["in", "favour", "of"] m

lemma dropFavor_eq_some_iff :
    dropFavor s = some r ↔ s = "favor".toList ++ r ∨ s = "favour".toList ++ r := by
  rw [dropFavor, Option.bind_eq_bind, Option.bind_eq_some_iff]
  constructor
  · rintro ⟨t, ht, h⟩
    obtain rfl := dropWord_eq_some_iff.mp ht
    split at h
    · next u hu =>
      obtain rfl := dropWord_eq_some_iff.mp hu
      rw [dropWord_eq_some_iff.mp h]
      exact Or.inr rfl
    · rw [dropWord_eq_some_iff.mp h]
      exact Or.inl rfl
  · rintro (rfl | rfl)
    · refine ⟨'r' :: r, dropWord_eq_some_iff.mpr rfl, ?_⟩
      simp [dropWord]
    · refine ⟨'u' :: 'r' :: r, dropWord_eq_some_iff.mpr rfl, ?_⟩
      simp [dropWord]

/-- The rest after the words in which a change is announced. -/
def dropInFavorOf (s : List Char) : Option (List Char) :=
  dropGapWord "in" s >>= fun s => dropGap s >>= dropFavor >>= fun s => dropGapWord "of" s >>= dropGap

lemma dropInFavorOf_eq_some_iff :
    dropInFavorOf s = some r ↔ ∃ m, IsFavor m ∧ StartsSolid r ∧ s = m ++ r := by
  have hfavor : ∀ s r, (dropGap s >>= dropFavor) = some r ↔
      dropGapWord "favor" s = some r ∨ dropGapWord "favour" s = some r := by
    intro s r
    simp only [dropGapWord, Option.bind_eq_bind, Option.bind_eq_some_iff, dropFavor_eq_some_iff,
      dropWord_eq_some_iff, ← exists_or, ← and_or_left]
  have hread : dropInFavorOf s = some r ↔
      dropPhrase ["in", "favor", "of"] s = some r ∨ dropPhrase ["in", "favour", "of"] s = some r := by
    simp only [dropPhrase]
    constructor
    · intro h
      obtain ⟨s₁, hin, h⟩ := Option.bind_eq_some_iff.mp h
      obtain ⟨s₂, hfav, hof⟩ := Option.bind_eq_some_iff.mp h
      refine ((hfavor s₁ s₂).mp hfav).imp (fun hword => ?_) (fun hword => ?_)
      all_goals
        exact Option.bind_eq_some_iff.mpr
          ⟨s₁, hin, Option.bind_eq_some_iff.mpr ⟨s₂, hword, hof⟩⟩
    · rintro (h | h)
      all_goals
        obtain ⟨s₁, hin, h⟩ := Option.bind_eq_some_iff.mp h
        obtain ⟨s₂, hword, hof⟩ := Option.bind_eq_some_iff.mp h
        refine Option.bind_eq_some_iff.mpr ⟨s₁, hin, Option.bind_eq_some_iff.mpr ⟨s₂, ?_, hof⟩⟩
      · exact (hfavor s₁ s₂).mpr (Or.inl hword)
      · exact (hfavor s₁ s₂).mpr (Or.inr hword)
  have hsolid : ∀ w ∈ ["in", "favor", "of"], IsSolid w = true := by decide
  have hsolid' : ∀ w ∈ ["in", "favour", "of"], IsSolid w = true := by decide
  rw [hread, dropPhrase_eq_some_iff hsolid, dropPhrase_eq_some_iff hsolid', ← exists_or]
  refine exists_congr fun m => ?_
  rw [IsFavor, or_and_right]

lemma favoredHere_eq_some_iff :
    favoredHere s = some y ↔ ∃ m r, IsFavor m ∧ IsQuotable y ∧
      s = "deprecated".toList ++ m ++ quoted y ++ r := by
  have hread : favoredHere s = (dropWord "deprecated".toList s >>= fun s =>
      dropInFavorOf s >>= fun s => takeQuoted s >>= fun new => pure new.1) := by
    simp only [favoredHere, dropInFavorOf, Option.bind_eq_bind, Option.bind_assoc]
  rw [hread, Option.bind_eq_bind, Option.bind_eq_some_iff]
  constructor
  · rintro ⟨s₁, hword, h⟩
    obtain ⟨s₂, hfavor, h⟩ := Option.bind_eq_some_iff.mp h
    obtain ⟨⟨new, r⟩, hnew, h⟩ := Option.bind_eq_some_iff.mp h
    cases h
    obtain rfl := dropWord_eq_some_iff.mp hword
    obtain ⟨m, hm, -, rfl⟩ := dropInFavorOf_eq_some_iff.mp hfavor
    obtain ⟨hyne, hy, rfl⟩ := takeQuoted_eq_some_iff.mp hnew
    refine ⟨m, r, hm, ⟨hyne, hy⟩, ?_⟩
    rw [List.append_assoc, List.append_assoc]
  · rintro ⟨m, r, hm, ⟨hyne, hy⟩, rfl⟩
    refine ⟨m ++ (quoted y ++ r), dropWord_eq_some_iff.mpr ?_, ?_⟩
    · rw [List.append_assoc, List.append_assoc]
    · refine Option.bind_eq_some_iff.mpr ⟨quoted y ++ r,
        dropInFavorOf_eq_some_iff.mpr ⟨m, hm, startsSolid_quoted y r, rfl⟩, ?_⟩
      exact Option.bind_eq_some_iff.mpr
        ⟨(y, r), takeQuoted_eq_some_iff.mpr ⟨hyne, hy, rfl⟩, rfl⟩

lemma changedHere_eq_some_iff : changedHere s = some (x, y) ↔
    ∃ t, IsQuotable x ∧ s = quoted x ++ t ∧ firstAtWordStart favoredHere '`' t = some y := by
  rw [changedHere, Option.bind_eq_bind, Option.bind_eq_some_iff]
  constructor
  · rintro ⟨⟨old, t⟩, hquoted, h⟩
    obtain ⟨new, hnew, h⟩ := Option.bind_eq_some_iff.mp h
    cases h
    obtain ⟨hxne, hx, rfl⟩ := takeQuoted_eq_some_iff.mp hquoted
    exact ⟨t, ⟨hxne, hx⟩, rfl, hnew⟩
  · rintro ⟨t, ⟨hxne, hx⟩, rfl, hnew⟩
    exact ⟨(x, t), takeQuoted_eq_some_iff.mpr ⟨hxne, hx, rfl⟩,
      Option.bind_eq_some_iff.mpr ⟨y, hnew, rfl⟩⟩

/-- A marker of a list, if there is one. -/
def IsMarker (m : List Char) : Prop :=
  m = [] ∨ ∃ c g, (c = '-' ∨ c = '*' ∨ c = '+') ∧ IsGap g ∧ m = c :: g

/-- A text that goes on with no word character. -/
def StartsNoWord (s : List Char) : Prop :=
  ∀ c, s.head? = some c → isWord c = false

/-- How a removal begins: perhaps blanks, perhaps a list marker, and the word `removed` in any
letter case, which ends there. -/
inductive OpensRemoval : List Char → Prop
  | intro {lead marker word rest : List Char} (hlead : ∀ c ∈ lead, isBlank c = true)
    (hmarker : IsMarker marker) (hword : word.map Char.toLower = "removed".toList)
    (hrest : StartsNoWord rest) : OpensRemoval (lead ++ marker ++ word ++ rest)

/-- An empty list opens nothing. -/
lemma not_opensRemoval_nil : ¬OpensRemoval [] := by
  generalize hnil : [] = u
  rintro ⟨-, -, hword, -⟩
  simp only [List.nil_eq, List.append_eq_nil_iff] at hnil
  rw [hnil.1.2] at hword
  cases hword

lemma wordEnds_iff : wordEnds s = true ↔ StartsNoWord s := by
  cases s with
  | nil => simp [wordEnds, StartsNoWord]
  | cons c s => simp [wordEnds, StartsNoWord]

lemma exists_of_dropMarker (h : dropMarker s = some r) : ∃ m, IsMarker m ∧ s = m ++ r := by
  cases s with
  | nil =>
    cases h
    exact ⟨[], Or.inl rfl, rfl⟩
  | cons c s =>
    rw [dropMarker] at h
    split at h
    · next hc =>
      obtain ⟨g, hg, -, rfl⟩ := dropGap_eq_some_iff.mp h
      exact ⟨c :: g, Or.inr ⟨c, g, hc, hg, rfl⟩, rfl⟩
    · cases h
      exact ⟨[], Or.inl rfl, rfl⟩

lemma dropMarker_append {m : List Char} {c : Char} (hm : IsMarker m) (hblank : isBlank c = false)
    (hc : ¬ (c = '-' ∨ c = '*' ∨ c = '+')) : dropMarker (m ++ c :: r) = some (c :: r) := by
  rcases hm with rfl | ⟨d, g, hd, hg, rfl⟩
  · rw [List.nil_append, dropMarker, if_neg hc]
  · rw [List.cons_append, dropMarker, if_pos hd]
    refine dropGap_eq_some_iff.mpr ⟨g, hg, ?_, rfl⟩
    intro e he
    cases he
    exact hblank

lemma notMem_of_blank {g : List Char} (hg : ∀ c ∈ g, isBlank c = true) : '`' ∉ g := by
  intro hc
  have hblank : isBlank '`' = false := by decide
  rw [hg _ hc] at hblank
  cases hblank

lemma notMem_of_marker {m : List Char} (hm : IsMarker m) : '`' ∉ m := by
  rcases hm with rfl | ⟨c, g, hc, hg, rfl⟩
  · exact List.not_mem_nil
  · intro hmem
    rcases List.mem_cons.mp hmem with rfl | hmem
    · exact absurd hc (by decide)
    · exact notMem_of_blank hg.2 hmem

/-- No backtick is hidden in a word by its letter case. -/
lemma notMem_of_removed {word : List Char} (h : word.map Char.toLower = "removed".toList) :
    '`' ∉ word := by
  intro hmem
  have hlower : Char.toLower '`' ∈ "removed".toList := by
    rw [← h]
    exact List.mem_map.mpr ⟨_, hmem, rfl⟩
  exact absurd hlower (by decide)

/-- The first letter of the word is neither a blank nor a list marker. -/
lemma solid_of_toLower {c : Char} (h : c.toLower = 'r') :
    isBlank c = false ∧ ¬ (c = '-' ∨ c = '*' ∨ c = '+') := by
  have hall : (blanks.all fun b => b.toLower != 'r') = true := by decide +kernel
  constructor
  · by_contra hblank
    have := List.all_eq_true.mp hall c (mem_blanks (Bool.not_eq_false _ ▸ hblank))
    simp [h] at this
  · rintro (rfl | rfl | rfl)
    all_goals exact absurd h (by decide)

/-- The opening of a removal has a backtick only where something follows the word. -/
lemma notMem_of_opening {lead marker word rest : List Char}
    (hlead : ∀ c ∈ lead, isBlank c = true) (hmarker : IsMarker marker)
    (hword : word.map Char.toLower = "removed".toList) (hrest : '`' ∉ rest) :
    '`' ∉ lead ++ marker ++ word ++ rest := by
  simp only [List.mem_append, not_or]
  exact ⟨⟨⟨notMem_of_blank hlead, notMem_of_marker hmarker⟩, notMem_of_removed hword⟩, hrest⟩

lemma startsNoWord_append_quoted {rest : List Char} :
    StartsNoWord (rest ++ quoted x ++ r) ↔ StartsNoWord rest := by
  cases rest with
  | nil =>
    have hbacktick : StartsNoWord (quoted x ++ r) := by
      intro c hc
      cases hc
      decide
    simpa [StartsNoWord] using hbacktick
  | cons c rest => rfl

lemma removed_eq_some_iff :
    removed s = some x ↔ ∃ u r, OpensRemoval u ∧ '`' ∉ u ∧ IsQuotable x ∧ s = u ++ quoted x ++ r := by
  rw [removed, Option.bind_eq_bind, Option.bind_eq_some_iff]
  constructor
  · rintro ⟨s₁, hmarker, h⟩
    obtain ⟨s₂, hword, h⟩ := Option.bind_eq_some_iff.mp h
    split at h
    · next hends =>
      obtain ⟨⟨old, r⟩, hquoted, h⟩ := Option.bind_eq_some_iff.mp h
      cases h
      obtain ⟨lead, hlead, heq, -⟩ := exists_dropWhile_blank s
      obtain ⟨marker, hmarker, heq₁⟩ := exists_of_dropMarker hmarker
      obtain ⟨word, hword, heq₂⟩ := dropWordAnyCase_eq_some_iff.mp hword
      obtain ⟨hxne, hx, heq₃⟩ := takeQuoted_eq_some_iff.mp hquoted
      rw [quoted_append] at heq₃
      obtain ⟨hfree, hs₂⟩ := exists_dropWhile_backtick heq₃
      rw [← quoted_append, ← List.append_assoc] at hs₂
      generalize s₂.takeWhile (· ≠ '`') = rest at hfree hs₂
      rw [hs₂] at hends
      have hrest := startsNoWord_append_quoted.mp (wordEnds_iff.mp hends)
      refine ⟨lead ++ marker ++ word ++ rest, r, .intro hlead hmarker hword hrest,
        notMem_of_opening hlead hmarker hword hfree, ⟨hxne, hx⟩, ?_⟩
      rw [heq, heq₁, heq₂, hs₂]
      simp only [List.append_assoc]
    · cases h
  · rintro ⟨u, r, hu, hfree, ⟨hxne, hx⟩, rfl⟩
    cases hu with
    | @intro lead marker word rest hlead hmarker hword hrest =>
      have hrestfree : '`' ∉ rest := fun hmem => hfree (List.mem_append_right _ hmem)
      obtain ⟨c, tail, rfl, hc, -⟩ := List.map_eq_cons_iff.mp hword
      obtain ⟨hblank, hnomarker⟩ := solid_of_toLower hc
      have hmarked : dropMarker (marker ++ (c :: tail ++ (rest ++ quoted x ++ r))) =
          some (c :: tail ++ (rest ++ quoted x ++ r)) :=
        dropMarker_append hmarker hblank hnomarker
      have hsolid : StartsSolid (marker ++ (c :: tail ++ (rest ++ quoted x ++ r))) := by
        rcases hmarker with rfl | ⟨d, g, hd, -, rfl⟩
        · rintro d hd
          cases hd
          exact hblank
        · rintro e he
          cases he
          rcases hd with rfl | rfl | rfl
          all_goals decide
      refine ⟨c :: tail ++ (rest ++ quoted x ++ r), ?_, Option.bind_eq_some_iff.mpr
        ⟨rest ++ quoted x ++ r, dropWordAnyCase_eq_some_iff.mpr ⟨c :: tail, hword, rfl⟩, ?_⟩⟩
      · have hline : lead ++ marker ++ (c :: tail) ++ rest ++ quoted x ++ r =
            lead ++ (marker ++ (c :: tail ++ (rest ++ quoted x ++ r))) := by
          simp only [List.append_assoc]
        rw [hline, dropWhile_blank_append hlead hsolid, hmarked]
      · rw [if_pos (wordEnds_iff.mpr (startsNoWord_append_quoted.mpr hrest))]
        refine Option.bind_eq_some_iff.mpr ⟨(x, r), takeQuoted_eq_some_iff.mpr ⟨hxne, hx, ?_⟩, rfl⟩
        rw [List.append_assoc, quoted_append, (dropWhile_append_backtick hrestfree _).1]

end Deprecation.Changelog
