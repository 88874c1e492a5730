/-
# Shapes of sequences and choices

A sequence is built from its end, one expression in front of another, and a literal that comes to
stand in front of a literal becomes one with it.  So it makes no difference whether shapes are put
into a sequence one at a time or all together.  A character by itself is a literal, since the set
that it stands for has one range.
-/
import Mathlib
import Deprecation.Proofs.Text.Ranges
import Deprecation.Regex.Shape

namespace Deprecation.Regex

open Text

/-- The set of one character has one range. -/
lemma CharSet.ranges_single (c : Char) : (CharSet.single c).ranges = [(c.toNat, c.toNat)] := by
  have hvalid : c.toNat < 0xD800 ∨ 0xDFFF < c.toNat ∧ c.toNat < 0x110000 := c.valid
  have hmax : c.toNat ≤ Ranges.maxCode := by
    rw [Ranges.maxCode]
    omega
  rw [CharSet.ranges, CharSet.single, CharSet.codes, Ranges.normal_single, CharSet.surrogates]
  exact Ranges.diff_single hmax (by decide) (by decide) (by decide) (hvalid.imp_right And.left)

namespace Shape

variable {a b : Shape} {as bs : List Shape}

/-! ## Sequences -/

/-- Two shapes that do not become one literal when the one stands in front of the other. -/
def Apart (a b : Shape) : Prop := a.literal? = none ∨ b.literal? = none

lemma before_of_apart (h : ∀ b ∈ as.head?, Apart a b) : before a as = a :: as := by
  cases as with
  | nil => cases a <;> rfl
  | cons b as =>
    have hab : Apart a b := h b rfl
    cases a <;> cases b <;> first | rfl | simp [Apart, literal?] at hab

lemma exists_literals_of_not_apart (h : ¬ Apart a b) :
    ∃ codes codes', a = literal codes ∧ b = literal codes' := by
  cases a <;> cases b <;> simp [Apart, literal?] at h ⊢

/-- No two literals stand together in what has been built. -/
lemma isChain_before (h : as.IsChain Apart) (a : Shape) : (before a as).IsChain Apart := by
  cases as with
  | nil =>
    rw [before_of_apart (by simp)]
    exact List.isChain_singleton a
  | cons b as =>
    obtain ⟨hb, has⟩ := List.isChain_cons.mp h
    by_cases hab : Apart a b
    · rw [before_of_apart (by simpa using hab)]
      exact List.isChain_cons.mpr ⟨by simpa using hab, h⟩
    · obtain ⟨codes, codes', rfl, rfl⟩ := exists_literals_of_not_apart hab
      -- the literal that they become stands before what the second one stood before
      refine List.isChain_cons.mpr ⟨fun c hc => ?_, has⟩
      exact Or.inr ((hb c hc).resolve_left (by simp [literal?]))

lemma isChain_foldr_before (as : List Shape) : (as.foldr before []).IsChain Apart := by
  induction as with
  | nil => exact List.isChain_nil
  | cons a as ih => exact isChain_before ih a

/-- What has been built is not changed by building it again. -/
lemma foldr_before_of_isChain (h : as.IsChain Apart) : as.foldr before [] = as := by
  induction as with
  | nil => rfl
  | cons a as ih =>
    obtain ⟨ha, has⟩ := List.isChain_cons.mp h
    rw [List.foldr_cons, ih has, before_of_apart ha]

/-- A shape that stands by itself in a sequence and in a choice. -/
structure IsItem (a : Shape) : Prop where
  items_eq : a.items = [a]
  choices_eq : a.choices = [a]

lemma isItem_literal (codes : List Nat) : IsItem (literal codes) := ⟨rfl, rfl⟩

lemma flatMap_items (h : ∀ a ∈ as, a.IsItem) : as.flatMap items = as := by
  induction as with
  | nil => rfl
  | cons a as ih =>
    obtain ⟨ha, has⟩ := List.forall_mem_cons.mp h
    rw [List.flatMap_cons, ih has, ha.items_eq]
    rfl

lemma isItem_of_mem_before (ha : a.IsItem) (has : ∀ b ∈ as, b.IsItem) :
    ∀ b ∈ before a as, b.IsItem := by
  cases as with
  | nil =>
    rw [before_of_apart (by simp)]
    simpa using ha
  | cons b as =>
    by_cases hab : Apart a b
    · rw [before_of_apart (by simpa using hab)]
      exact List.forall_mem_cons.mpr ⟨ha, has⟩
    · obtain ⟨codes, codes', rfl, rfl⟩ := exists_literals_of_not_apart hab
      exact List.forall_mem_cons.mpr ⟨isItem_literal _, (List.forall_mem_cons.mp has).2⟩

lemma isItem_of_mem_foldr_before (h : ∀ a ∈ as, a.IsItem) : ∀ b ∈ as.foldr before [], b.IsItem := by
  induction as with
  | nil => simp
  | cons a as ih =>
    obtain ⟨ha, has⟩ := List.forall_mem_cons.mp h
    exact isItem_of_mem_before ha (ih has)

/-- A sequence puts into a sequence what it was built of. -/
lemma items_sequence (h : ∀ a ∈ as, a.IsItem) : (sequence as).items = as.foldr before [] := by
  have hbuilt := isItem_of_mem_foldr_before h
  rw [sequence, flatMap_items h]
  match as.foldr before [], hbuilt with
  | [], _ => rfl
  | [a], ha => exact (ha a (List.mem_singleton_self a)).items_eq
  | a :: b :: as, _ => rfl

/-- A sequence stands by itself in a choice. -/
lemma choices_sequence (h : ∀ a ∈ as, a.IsItem) : (sequence as).choices = [sequence as] := by
  have hbuilt := isItem_of_mem_foldr_before h
  rw [sequence, flatMap_items h]
  match as.foldr before [], hbuilt with
  | [], _ => rfl
  | [a], ha => exact (ha a (List.mem_singleton_self a)).choices_eq
  | a :: b :: as, _ => rfl

lemma sequence_congr
    (h : (as.flatMap items).foldr before [] = (bs.flatMap items).foldr before []) :
    sequence as = sequence bs := by
  rw [sequence, sequence, h]

/-- Shapes may be put into a sequence one at a time. -/
theorem sequence_cons_sequence (ha : a.IsItem) (has : ∀ b ∈ as, b.IsItem) :
    sequence [a, sequence as] = sequence (a :: as) := by
  have hall : ∀ b ∈ a :: as, b.IsItem := List.forall_mem_cons.mpr ⟨ha, has⟩
  have hbuilt : (as.foldr before []).foldr before [] = as.foldr before [] :=
    foldr_before_of_isChain (isChain_foldr_before as)
  have hitems : [a, sequence as].flatMap items = a :: as.foldr before [] := by
    rw [List.flatMap_cons, List.flatMap_singleton, items_sequence has, ha.items_eq]
    rfl
  refine sequence_congr ?_
  rw [hitems, flatMap_items hall, List.foldr_cons, List.foldr_cons, hbuilt]

/-! ## Choices -/

lemma alternation_congr (h : as.flatMap choices = bs.flatMap choices) :
    alternation as = alternation bs := by
  rw [alternation, alternation, h]

/-- A choice of one is no choice. -/
lemma alternation_single (h : a.choices = [a]) : alternation [a] = a := by
  have hchoices : [a].flatMap choices = [a] := by rw [List.flatMap_singleton, h]
  rw [alternation, hchoices]
  cases hseq : a.sequence? with
  | none => simp [hseq, choice]
  | some as => simp [hseq, choice]

end Shape
end Deprecation.Regex
