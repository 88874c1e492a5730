/-
# Tables with one code point

A table is taken from another by way of complements, and a union of tables puts their ranges in
order and joins those that touch.  This file follows these steps where all there is to one table
is a single code point: its complement is what lies below it and what lies above it, and taking
away a range in which it does not lie leaves it as it is.
-/
import Mathlib
import Deprecation.Text.Ranges

namespace Deprecation.Text.Ranges

variable {t t' rest : Ranges} {r : Nat × Nat} {n low high : Nat}

/-! ## Joining ranges -/

lemma attach_touching (h : low ≤ r.2 + 1) :
    attach r ((low, high) :: rest) = attach (r.1, max r.2 high) rest := by
  rw [attach, if_pos h]

lemma attach_apart (h : r.2 + 1 < low) :
    attach r ((low, high) :: rest) = r :: (low, high) :: rest := by
  rw [attach, if_neg (by omega)]

/-- Ranges that are in order are joined as they stand. -/
lemma normal_of_ordered (hle : ∀ r ∈ t, r.1 ≤ r.2) (hordered : t.Pairwise fun p q => p.1 ≤ q.1) :
    normal t = t.foldr attach [] := by
  have hfilter : t.filter (fun r => r.1 ≤ r.2) = t := by simpa using fun a b => hle (a, b)
  rw [normal, hfilter, List.mergeSort_of_pairwise (by simpa using hordered)]

/-- Ranges in any order are put in order first. -/
lemma normal_of_perm (hperm : t.Perm t') (hle : ∀ r ∈ t', r.1 ≤ r.2)
    (hordered : t'.Pairwise fun p q => p.1 < q.1) : normal t = t'.foldr attach [] := by
  have hfilter : t.filter (fun r => r.1 ≤ r.2) = t := by
    simpa using fun a b h => hle (a, b) (hperm.mem_iff.mp h)
  have hsorted : (t.mergeSort fun p q => p.1 ≤ q.1).Pairwise fun p q => p.1 ≤ q.1 := by
    simpa using @List.pairwise_mergeSort _ (fun p q : Nat × Nat => decide (p.1 ≤ q.1))
      (by simp; omega) (by simp; omega) t
  -- no two of the ranges begin together, so there is only one order
  have hnodup : (t'.map Prod.fst).Nodup := by
    rw [List.nodup_iff_pairwise_ne, List.pairwise_map]
    exact hordered.imp fun h => h.ne
  rw [normal, hfilter]
  refine congrArg (List.foldr attach []) ?_
  refine ((List.mergeSort_perm t _).trans hperm).eq_of_pairwise ?_ hsorted
    (hordered.imp fun h => h.le)
  intro p q hp hq hpq hqp
  have hp' : p ∈ t' := hperm.mem_iff.mp (List.mem_mergeSort.mp hp)
  exact List.inj_on_of_nodup_map hnodup hp' hq (Nat.le_antisymm hpq hqp)

/-! ## A single code point -/

/-- The code points below one. -/
def below (n : Nat) : Ranges := if 0 < n then [(0, n - 1)] else []

/-- The code points above one. -/
def above (n : Nat) : Ranges := if n < maxCode then [(n + 1, maxCode)] else []

lemma below_succ (n : Nat) : below (n + 1) = [(0, n)] := rfl

lemma above_of_lt (h : n < maxCode) : above n = [(n + 1, maxCode)] := if_pos h

lemma foldr_above (n : Nat) : (above n).foldr attach [] = above n := by
  rw [above]
  split <;> rfl

lemma gaps_nil_of_gt (h : maxCode < n) : gaps n [] = [] := if_neg (by omega)

lemma gaps_of_lt (h : n < low) :
    gaps n ((low, high) :: rest) = (n, low - 1) :: gaps (high + 1) rest := if_pos h

lemma normal_single (n : Nat) : normal [(n, n)] = [(n, n)] := by
  rw [normal_of_ordered (by simp) (List.pairwise_singleton _ _)]
  rfl

lemma compl_single (n : Nat) : compl [(n, n)] = below n ++ above n := by
  rw [compl, gaps, below]
  split <;> rfl

lemma compl_below_append_above (hn : n ≤ maxCode) : compl (below n ++ above n) = [(n, n)] := by
  have hstart : compl (below n ++ above n) = gaps n (above n) := by
    cases n with
    | zero => rfl
    | succ n => rfl
  rw [hstart]
  rcases Nat.lt_or_eq_of_le hn with hlt | rfl
  · rw [above_of_lt hlt, gaps_of_lt (Nat.lt_succ_self n), gaps_nil_of_gt (Nat.lt_succ_self _)]
    rfl
  · rfl

/-- A range that lies above a code point is part of what lies above it. -/
lemma union_of_lt (hn : n < low) (hle : low ≤ high) (hmax : high ≤ maxCode) :
    union (below n ++ above n) [(low, high)] = below n ++ above n := by
  have habove : attach (n + 1, maxCode) [(low, high)] = [(n + 1, maxCode)] := by
    rw [attach_touching (show low ≤ maxCode + 1 by omega), Nat.max_eq_left hmax]
    rfl
  rw [union, above_of_lt (by omega)]
  cases n with
  | zero =>
    rw [normal_of_ordered (by simp [below]; omega) (by simp [below]; omega)]
    exact habove
  | succ n =>
    rw [below_succ, normal_of_ordered (by simp; omega) (by simp; omega)]
    show attach (0, n) (attach (n + 1 + 1, maxCode) [(low, high)]) = _
    rw [habove, attach_apart (Nat.lt_succ_self _)]
    rfl

/-- A range that lies below a code point is part of what lies below it. -/
lemma union_of_gt (h0 : 0 < low) (hle : low ≤ high) (hn : high < n) :
    union (below n ++ above n) [(low, high)] = below n ++ above n := by
  obtain ⟨n, rfl⟩ : ∃ m, n = m + 1 := ⟨n - 1, by omega⟩
  have hbelow : attach (0, n) ((low, high) :: above (n + 1)) = (0, n) :: above (n + 1) := by
    rw [attach_touching (show low ≤ n + 1 by omega), Nat.max_eq_left (by omega), above]
    split
    · exact attach_apart (Nat.lt_succ_self _)
    · rfl
  have hattach : attach (low, high) (above (n + 1)) = (low, high) :: above (n + 1) := by
    rw [above]
    split
    · exact attach_apart (show high + 1 < n + 1 + 1 by omega)
    · rfl
  have hperm : ((0, n) :: above (n + 1) ++ [(low, high)]).Perm
      ((0, n) :: (low, high) :: above (n + 1)) :=
    (List.perm_append_singleton _ _).cons _
  rw [union, below_succ, List.singleton_append, normal_of_perm hperm, List.foldr_cons,
    List.foldr_cons, foldr_above, hattach, hbelow]
  · rw [above]
    split
    · simp [hle]
      omega
    · simp [hle]
  · rw [above]
    split
    · simp
      omega
    · simp
      omega

/-- Taking away a range leaves a code point that does not lie in it. -/
lemma diff_single (hn : n ≤ maxCode) (h0 : 0 < low) (hle : low ≤ high) (hmax : high ≤ maxCode)
    (hout : n < low ∨ high < n) : diff [(n, n)] [(low, high)] = [(n, n)] := by
  rw [diff, compl_single]
  rcases hout with hlt | hgt
  · rw [union_of_lt hlt hle hmax, compl_below_append_above hn]
  · rw [union_of_gt h0 hle hgt, compl_below_append_above hn]

end Deprecation.Text.Ranges
