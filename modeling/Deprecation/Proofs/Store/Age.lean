/-
# The order of age

Approved rules are active in the order of their age, and rules that were made at the same
time in the order of their ids.  Rules with different ids are never of one age in this sense,
so the order is strict: of two rules one precedes the other, and putting rules in order of
age leaves no choice.
-/
import Mathlib
import Deprecation.Store

namespace Deprecation

namespace Instant

protected lemma lt_irrefl (a : Instant) : ¬ a < a :=
  fun h => lt_irrefl a.key (lt_iff.mp h)

protected lemma lt_trans {a b c : Instant} (hab : a < b) (hbc : b < c) : a < c :=
  lt_iff.mpr (lt_trans (lt_iff.mp hab) (lt_iff.mp hbc))

protected lemma lt_trichotomy (a b : Instant) : a < b ∨ a = b ∨ b < a := by
  rcases lt_trichotomy a.key b.key with h | h | h
  · exact Or.inl (lt_iff.mpr h)
  · exact Or.inr (Or.inl (key_injective h))
  · exact Or.inr (Or.inr (lt_iff.mpr h))

end Instant

namespace MinedRule

lemma Precedes.trans {r s t : MinedRule} (hrs : r.Precedes s) (hst : s.Precedes t) :
    r.Precedes t := by
  rcases hrs with hrs | ⟨hrs, hid⟩
  · rcases hst with hst | ⟨hst, -⟩
    · exact Or.inl (Instant.lt_trans hrs hst)
    · exact Or.inl (hst ▸ hrs)
  · rcases hst with hst | ⟨hst, hid'⟩
    · exact Or.inl (hrs ▸ hst)
    · exact Or.inr ⟨hrs.trans hst, String.lt_trans hid hid'⟩

lemma Precedes.irrefl (r : MinedRule) : ¬ r.Precedes r := by
  rintro (h | ⟨-, h⟩)
  · exact Instant.lt_irrefl _ h
  · exact String.lt_irrefl _ h

/-- Rules in strict order of age are known from which rules they are. -/
lemma eq_of_pairwise_precedes {l l' : List MinedRule} (h : l.Pairwise Precedes)
    (h' : l'.Pairwise Precedes) (hmem : ∀ r, r ∈ l ↔ r ∈ l') : l = l' := by
  have hirrefl : Std.Irrefl Precedes := ⟨Precedes.irrefl⟩
  have hantisymm : Std.Antisymm Precedes :=
    ⟨fun r s hrs hsr => absurd (hrs.trans hsr) (Precedes.irrefl r)⟩
  exact h.eq_of_mem_iff h' hmem

/-- Of two rules with different ids one precedes the other. -/
lemma precedes_of_not_precedes {r s : MinedRule} (hid : r.id ≠ s.id) (h : ¬ r.Precedes s) :
    s.Precedes r := by
  rcases Instant.lt_trichotomy r.madeAt s.madeAt with hlt | heq | hgt
  · exact absurd (Or.inl hlt) h
  · refine Or.inr ⟨heq.symm, Keyed.lt_of_not_lt_of_ne ?_ hid⟩
    intro hlt
    exact h (Or.inr ⟨heq, hlt⟩)
  · exact Or.inl hgt

lemma pairwise_insertByAge {r : MinedRule} {l : List MinedRule} (hl : l.Pairwise Precedes)
    (hr : ∀ s ∈ l, r.id ≠ s.id) : (insertByAge r l).Pairwise Precedes := by
  induction l with
  | nil => simp [insertByAge]
  | cons s rest ih =>
    rw [insertByAge]
    split
    · next hrs =>
      refine List.pairwise_cons.mpr ⟨?_, hl⟩
      intro t ht
      rcases List.mem_cons.mp ht with rfl | ht
      · exact hrs
      · exact hrs.trans ((List.pairwise_cons.mp hl).1 t ht)
    · next hrs =>
      have hrest := ih (List.pairwise_cons.mp hl).2 fun t ht => hr t (List.mem_cons_of_mem _ ht)
      refine List.pairwise_cons.mpr ⟨?_, hrest⟩
      intro t ht
      rcases mem_insertByAge.mp ht with rfl | ht
      · exact precedes_of_not_precedes (hr s List.mem_cons_self) hrs
      · exact (List.pairwise_cons.mp hl).1 t ht

/-- Rules with different ids come out in strict order of age. -/
theorem pairwise_byAge {l : List MinedRule} (hl : l.Pairwise fun r s => r.id ≠ s.id) :
    (byAge l).Pairwise Precedes := by
  induction l with
  | nil => exact List.Pairwise.nil
  | cons r rest ih =>
    obtain ⟨hr, hrest⟩ := List.pairwise_cons.mp hl
    refine pairwise_insertByAge (ih hrest) ?_
    intro s hs
    exact hr s (mem_byAge.mp hs)

end MinedRule
end Deprecation
