/-
# Searching as scanning

Where a program can match at most one stretch of a text at each place, and never the empty one, all
its matches are found as by a scan: from left to right, taking what is met first, and going on
behind it.  That a search knows of many threads, and prefers some to others, does not show then.
-/
import Mathlib
import Deprecation.Proofs.Regex.Leftmost

namespace Deprecation.Regex.Search

variable {p : Program} {before : Option Char} {place : Nat} {rest : List Char}

/-- Goes through a text from left to right; `occurs` tells how many characters are to be taken at
a place, if any.  Behind what is taken the scan goes on. -/
def scan (occurs : Option Char → List Char → Option Nat) (before : Option Char) (place : Nat) :
    List Char → List Span
  | [] => []
  | c :: rest =>
    match occurs before (c :: rest) with
    | some n =>
      ⟨place, place + n⟩ ::
        scan occurs (lastOr before ((c :: rest).take n)) (place + n) (rest.drop (n - 1))
    | none => scan occurs (some c) (place + 1) rest
termination_by rest => rest.length

/-- The program matches at each place what `occurs` tells, which is never empty. -/
structure MatchesOnly (p : Program) (occurs : Option Char → List Char → Option Nat) : Prop where
  accepts_iff : ∀ before rest n, Accepts p.code before rest p.entry n ↔ occurs before rest = some n
  pos : ∀ before rest, occurs before rest ≠ some 0

namespace MatchesOnly

variable {occurs : Option Char → List Char → Option Nat} (h : MatchesOnly p occurs)
include h

lemma eq_none_of_not_found (hnone : ∀ n, ¬Found p before rest 0 n) : occurs before rest = none := by
  rw [Option.eq_none_iff_forall_ne_some]
  intro n hn
  exact hnone n (.here ((h.accepts_iff before rest n).mpr hn))

lemma scan_eq_nil (hnone : ∀ k n, ¬Found p before rest k n) : scan occurs before place rest = [] := by
  induction rest generalizing before place with
  | nil => rw [scan]
  | cons c rest ih =>
    rw [scan, h.eq_none_of_not_found (hnone 0)]
    exact ih fun k n hk => hnone (k + 1) n (.later hk)

/-- A scan passes over what is in front of the first match. -/
lemma scan_eq_cons (place : Nat) {k n : Nat} (hk : Found p before rest k n)
    (hfirst : ∀ k' n', Found p before rest k' n' → k ≤ k') :
    0 < n ∧ scan occurs before place rest = ⟨place + k, place + k + n⟩ ::
      scan occurs (lastOr before (rest.take (k + n))) (place + k + n) (rest.drop (k + n)) := by
  induction hk generalizing place with
  | @here before rest n hn =>
    have hoccurs := (h.accepts_iff before rest n).mp hn
    have hpos : 0 < n := Nat.pos_of_ne_zero fun h0 => h.pos before rest (h0 ▸ hoccurs)
    refine ⟨hpos, ?_⟩
    cases rest with
    | nil =>
      have hle := hn.le_length
      rw [List.length_nil] at hle
      omega
    | cons c rest =>
      obtain ⟨m, rfl⟩ := Nat.exists_eq_add_one_of_ne_zero hpos.ne'
      rw [scan, hoccurs, Nat.zero_add, Nat.add_zero, List.drop_succ_cons]
      rfl
  | @later before c rest k n hk ih =>
    have hhere : occurs before (c :: rest) = none :=
      h.eq_none_of_not_found fun n' hn' => absurd (hfirst 0 n' hn') (Nat.not_succ_le_zero k)
    obtain ⟨hpos, hscan⟩ := ih (place + 1) fun k' n' hk' =>
      Nat.le_of_succ_le_succ (hfirst (k' + 1) n' (.later hk'))
    have hplace : place + 1 + k = place + (k + 1) := by omega
    have hlength : k + 1 + n = k + n + 1 := by omega
    refine ⟨hpos, ?_⟩
    rw [scan, hhere]
    dsimp only
    rw [hscan, hplace, hlength, List.take_succ_cons, lastOr_cons, List.drop_succ_cons]

/-- **All matches are found as a scan finds them.** -/
theorem findAll_eq_scan (before : Option Char) (place : Nat) (fresh : Bool) (rest : List Char) :
    findAll p before place fresh rest = scan occurs before place rest := by
  induction hlength : rest.length using Nat.strong_induction_on
    generalizing before place fresh rest with
  | h length ih =>
    rw [findAll.eq_def]
    cases hfind : find p before place rest with
    | none => rw [h.scan_eq_nil (find_eq_none_iff.mp hfind)]
    | some m =>
      obtain ⟨k, n, hk, rfl, hfirst⟩ := find_eq_some hfind
      obtain ⟨hpos, hscan⟩ := h.scan_eq_cons place hk hfirst
      have htaken : place + k + n - place = k + n := by omega
      have hne : k + n ≠ 0 := by omega
      cases rest with
      | nil =>
        -- a match that is not empty needs a character
        obtain ⟨hle, haccepts⟩ := found_iff.mp hk
        have hn := haccepts.le_length
        rw [List.length_drop, List.length_nil] at hn
        omega
      | cons c rest =>
        dsimp only
        rw [htaken, if_neg hne, hscan, ih _ ?_ _ _ _ _ rfl]
        rw [List.length_drop, ← hlength, List.length_cons]
        omega

end MatchesOnly

end Deprecation.Regex.Search
