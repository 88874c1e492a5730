/-
# Which id a fact gets

The candidates for a base id are numbered: the base id itself has number zero, and the number
`n + 1` belongs to the suffix `n + 2`.  Candidates with different numbers are different ids.
So a choice is the least number whose candidate the fact may have, and this is all that the
rest of the development knows of it.  A choice depends on the holders of the candidates up to
the one that is chosen, and it stays the same when further ids are given out.
-/
import Mathlib
import Deprecation.RuleId.Registry

namespace Deprecation
namespace Registry

/-- The candidate with a number. -/
def candidate (base : String) : Nat → String
  | 0 => base
  | n + 1 => suffixed base (n + 2)

lemma suffixed_injective {base : String} {m n : Nat} (h : suffixed base m = suffixed base n) :
    m = n := by
  have hlist := congrArg String.toList h
  simp only [suffixed, String.toList_append] at hlist
  exact Nat.repr_injective (String.toList_inj.mp (List.append_cancel_left hlist))

lemma suffixed_ne_base (base : String) (n : Nat) : suffixed base n ≠ base := by
  intro h
  -- a suffix makes the id longer
  have hlength := congrArg String.length h
  rw [suffixed, String.length_append, String.length_append] at hlength
  have hdash : "-".length = 1 := rfl
  omega

lemma candidate_injective {base : String} {m n : Nat}
    (h : candidate base m = candidate base n) : m = n := by
  cases m with
  | zero =>
    cases n with
    | zero => rfl
    | succ n => exact absurd h.symm (suffixed_ne_base base (n + 2))
  | succ m =>
    cases n with
    | zero => exact absurd h (suffixed_ne_base base (m + 2))
    | succ n =>
      have := suffixed_injective h
      omega

lemma candidates_eq (g : Registry) (base : String) :
    g.candidates base = (List.range (g.maxSuffix - 1 + 1)).map (candidate base) := by
  rw [candidates, List.range_succ_eq_map, List.map_cons, List.map_map,
    List.range'_eq_map_range, List.map_map]
  refine congrArg (base :: ·) (List.map_congr_left ?_)
  intro n _
  show suffixed base (2 + n) = suffixed base (n + 2)
  rw [Nat.add_comm]

lemma mem_candidates_iff {g : Registry} {base id : String} :
    id ∈ g.candidates base ↔ ∃ n ≤ g.maxSuffix - 1, candidate base n = id := by
  rw [candidates_eq, List.mem_map]
  refine exists_congr fun n => and_congr_left fun _ => ?_
  rw [List.mem_range]
  omega

/-! ## The choice -/

variable {g g' : Registry} {h : Holder} {base id : String}

lemma admits_eq_false_iff : g.admits h id = false ↔ ∃ h', g.holder id = some h' ∧ h' ≠ h := by
  unfold admits
  cases g.holder id with
  | none => simp
  | some h' => simp

/-- A fact gets the candidate with the least number that it may have. -/
theorem choose_eq_some_iff :
    g.choose h base = some id ↔
      ∃ n ≤ g.maxSuffix - 1, candidate base n = id ∧ g.admits h id = true ∧
        ∀ m < n, g.admits h (candidate base m) = false := by
  rw [choose_eq_find?, candidates_eq, List.find?_map, Option.map_eq_some_iff]
  refine exists_congr fun n => ?_
  rw [List.find?_range_eq_some]
  constructor
  · rintro ⟨⟨hadmits, hn, hleast⟩, rfl⟩
    refine ⟨by have := List.mem_range.mp hn; omega, rfl, hadmits, ?_⟩
    intro m hm
    simpa using hleast m hm
  · rintro ⟨hn, rfl, hadmits, hleast⟩
    refine ⟨⟨hadmits, List.mem_range.mpr (by omega), ?_⟩, rfl⟩
    intro m hm
    simpa using hleast m hm

/-- A fact gets no id when each of the candidates is held by another. -/
theorem choose_eq_none_iff :
    g.choose h base = none ↔
      ∀ n ≤ g.maxSuffix - 1, g.admits h (candidate base n) = false := by
  rw [choose_eq_find?, candidates_eq, List.find?_map, Option.map_eq_none_iff,
    List.find?_eq_none]
  constructor
  · intro hnone n hn
    simpa using hnone n (List.mem_range.mpr (by omega))
  · intro hnone n hn
    have := hnone n (by have := List.mem_range.mp hn; omega)
    simpa using this

/-! ## Registries with more holders -/

/-- Every id that is held in the one registry has the same holder in the other. -/
def Extends (g g' : Registry) : Prop :=
  ∀ id h, g.holder id = some h → g'.holder id = some h

lemma Extends.refl (g : Registry) : g.Extends g := fun _ _ h => h

lemma Extends.trans {g'' : Registry} (hg : g.Extends g') (hg' : g'.Extends g'') :
    g.Extends g'' :=
  fun id h hid => hg' id h (hg id h hid)

lemma extends_put (hid : g.admits h id = true) : g.Extends (g.put id h) := by
  intro id' h' hid'
  rw [holder_put]
  split
  · next heq =>
    subst heq
    rcases admits_iff.mp hid with hnone | hsome
    · rw [hnone] at hid'
      cases hid'
    · rw [← hsome, hid']
  · exact hid'

lemma Extends.admits_eq_false (hg : g.Extends g') (hid : g.admits h id = false) :
    g'.admits h id = false := by
  obtain ⟨h', hh', hne⟩ := admits_eq_false_iff.mp hid
  exact admits_eq_false_iff.mpr ⟨h', hg id h' hh', hne⟩

lemma Extends.choose_eq_none (hg : g.Extends g') (hmax : g'.maxSuffix = g.maxSuffix)
    (hnone : g.choose h base = none) : g'.choose h base = none := by
  rw [choose_eq_none_iff] at hnone ⊢
  intro n hn
  exact hg.admits_eq_false (hnone n (hmax ▸ hn))

/-- A fact that holds its choice gets it again. -/
lemma Extends.choose_eq_some (hg : g.Extends g') (hmax : g'.maxSuffix = g.maxSuffix)
    (hid : g'.holder id = some h) (hsome : g.choose h base = some id) :
    g'.choose h base = some id := by
  obtain ⟨n, hn, hcandidate, -, hleast⟩ := choose_eq_some_iff.mp hsome
  refine choose_eq_some_iff.mpr ⟨n, hmax ▸ hn, hcandidate, admits_iff.mpr (Or.inr hid), ?_⟩
  intro m hm
  exact hg.admits_eq_false (hleast m hm)

/-! ## Equality -/

/-- Registries with the same holders and the same largest suffix are equal. -/
lemma ext_holder (hholder : ∀ id, g.holder id = g'.holder id) (hmax : g.maxSuffix = g'.maxSuffix) :
    g = g' := by
  obtain ⟨t, n⟩ := g
  obtain ⟨t', n'⟩ := g'
  have ht : t = t' := Keyed.ext_find? hholder
  cases ht
  cases hmax
  rfl

end Registry
end Deprecation
