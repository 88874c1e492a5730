/-
# What the program of an expression accepts

An expression without repetitions is compiled from its end, state by state, and a state once made is
never changed.  So what its program accepts can be read off the expression: from the state that
the expression starts in, a stretch that the expression matches is taken, and then the program goes
on in the state that it was compiled in front of.

Repetitions are left out here.  Their loops refer forward, to a place that is filled in later.
-/
import Mathlib
import Deprecation.Proofs.Regex.Leftmost

namespace Deprecation.Regex

open Search Program

/-! ## What an expression matches -/

namespace Expr

/-- There are no repetitions in the expression. -/
def IsPlain : Expr → Prop
  | empty | set _ | look _ => True
  | seq a b | alt a b => a.IsPlain ∧ b.IsPlain
  | group _ a => a.IsPlain
  | rep .. => False

/-- Behind the character `before`, the expression matches the first `n` characters of `rest`.
Nothing is said of repetitions. -/
def Matches : Expr → Option Char → List Char → Nat → Prop
  | empty, _, _, n => n = 0
  | set s, _, rest, n => ∃ c rest', rest = c :: rest' ∧ s.has c = true ∧ n = 1
  | look l, before, rest, n => l.holds before rest.head? = true ∧ n = 0
  | seq a b, before, rest, n => ∃ k m, n = k + m ∧ a.Matches before rest k ∧
      b.Matches (lastOr before (rest.take k)) (rest.drop k) m
  | alt a b, before, rest, n => a.Matches before rest n ∨ b.Matches before rest n
  | group _ a, before, rest, n => a.Matches before rest n
  | rep .., _, _, _ => False

variable {before : Option Char} {rest : List Char} {n : Nat}

lemma matches_sequence_cons (a : Expr) (as : List Expr) : (sequence (a :: as)).Matches before rest n ↔
    ∃ k m, n = k + m ∧ a.Matches before rest k ∧
      (sequence as).Matches (lastOr before (rest.take k)) (rest.drop k) m := by
  cases as with
  | nil =>
    rw [sequence, sequence]
    constructor
    · intro h
      exact ⟨n, 0, rfl, h, rfl⟩
    · rintro ⟨k, m, rfl, h, hm⟩
      rw [Matches] at hm
      rwa [hm, Nat.add_zero]
  | cons b as =>
    show (Expr.seq a (sequence (b :: as))).Matches before rest n ↔ _
    rw [Matches]

lemma isPlain_sequence {as : List Expr} (h : ∀ a ∈ as, a.IsPlain) : (sequence as).IsPlain := by
  match as with
  | [] => exact trivial
  | [a] => exact h a List.mem_cons_self
  | a :: b :: as =>
    exact ⟨h a List.mem_cons_self, isPlain_sequence fun c hc => h c (List.mem_cons_of_mem a hc)⟩

end Expr

/-! ## Its program -/

namespace Program

/-- Code with the states of other code, where they were, and perhaps more. -/
def Extends (code code' : Array Instr) : Prop :=
  ∀ (q : Nat) (i : Instr), code[q]? = some i → code'[q]? = some i

lemma Extends.refl (code : Array Instr) : Extends code code := fun _ _ h => h

lemma Extends.trans {code code' code'' : Array Instr} (h : Extends code code')
    (h' : Extends code' code'') : Extends code code'' :=
  fun q i hq => h' q i (h q i hq)

lemma extends_emit (code : Array Instr) (i : Instr) : Extends code (emit code i).1 := by
  intro q j hq
  obtain ⟨hlt, -⟩ := Array.getElem?_eq_some_iff.mp hq
  rw [emit, Array.getElem?_push_lt hlt, ← hq, Array.getElem?_eq_getElem hlt]

/-- The state that was made is at its place. -/
lemma Extends.of_emit {code code' : Array Instr} {i : Instr} (h : Extends (emit code i).1 code') :
    code'[(emit code i).2]? = some i :=
  h _ _ Array.getElem?_push_size

lemma extends_compileInto {e : Expr} (he : e.IsPlain) (code : Array Instr) (next : Nat) :
    Extends code (compileInto e code next).1 := by
  induction e generalizing code next with
  | empty => exact .refl code
  | set s => exact extends_emit code _
  | look l => exact extends_emit code _
  | seq a b iha ihb => exact (ihb he.2 code next).trans (iha he.1 _ _)
  | alt a b iha ihb =>
    exact ((ihb he.2 code next).trans (iha he.1 _ _)).trans (extends_emit _ _)
  | group _ a ih => exact ih he code next
  | rep => exact he.elim

variable {before : Option Char} {rest : List Char} {n : Nat}

/-- From where an expression starts, what it matches is taken, and the program goes on. -/
theorem accepts_compileInto_iff {e : Expr} (he : e.IsPlain) {code code' : Array Instr} {next : Nat}
    (h : Extends (compileInto e code next).1 code') :
    Accepts code' before rest (compileInto e code next).2 n ↔ ∃ k m, n = k + m ∧
      e.Matches before rest k ∧
      Accepts code' (lastOr before (rest.take k)) (rest.drop k) next m := by
  induction e generalizing code next before rest n with
  | empty =>
    rw [compileInto]
    constructor
    · intro haccepts
      exact ⟨0, n, (Nat.zero_add n).symm, rfl, by rwa [List.take_zero, lastOr_nil]⟩
    · rintro ⟨k, m, rfl, rfl, haccepts⟩
      rwa [List.take_zero, lastOr_nil, List.drop_zero, ← Nat.zero_add m] at haccepts
  | set s =>
    rw [compileInto] at h ⊢
    rw [accepts_char_iff h.of_emit]
    constructor
    · rintro ⟨c, rest', m, rfl, hc, rfl, haccepts⟩
      refine ⟨1, m, Nat.add_comm m 1, ⟨c, rest', rfl, hc, rfl⟩, ?_⟩
      rwa [List.take_succ_cons, lastOr_cons, List.take_zero, lastOr_nil]
    · rintro ⟨k, m, rfl, ⟨c, rest', rfl, hc, rfl⟩, haccepts⟩
      rw [List.take_succ_cons, lastOr_cons, List.take_zero, lastOr_nil] at haccepts
      exact ⟨c, rest', m, rfl, hc, Nat.add_comm 1 m, haccepts⟩
  | look l =>
    rw [compileInto] at h ⊢
    rw [accepts_look_iff h.of_emit]
    constructor
    · rintro ⟨hl, haccepts⟩
      exact ⟨0, n, (Nat.zero_add n).symm, ⟨hl, rfl⟩, by rwa [List.take_zero, lastOr_nil]⟩
    · rintro ⟨k, m, rfl, ⟨hl, rfl⟩, haccepts⟩
      rw [List.take_zero, lastOr_nil, List.drop_zero, ← Nat.zero_add m] at haccepts
      exact ⟨hl, haccepts⟩
  | seq a b iha ihb =>
    rw [compileInto] at h ⊢
    have hb : Extends (compileInto b code next).1 code' := (extends_compileInto he.1 _ _).trans h
    rw [iha he.1 h]
    have hsplit (k m : Nat) : lastOr (lastOr before (rest.take k)) ((rest.drop k).take m) =
        lastOr before (rest.take (k + m)) := by
      rw [← lastOr_append, ← List.take_add]
    constructor
    · rintro ⟨k, m, rfl, ha, haccepts⟩
      obtain ⟨k', m', rfl, hb', haccepts⟩ := (ihb he.2 hb).mp haccepts
      rw [hsplit, List.drop_drop] at haccepts
      exact ⟨k + k', m', (Nat.add_assoc k k' m').symm, ⟨k, k', rfl, ha, hb'⟩, haccepts⟩
    · rintro ⟨-, m', rfl, ⟨k, k', rfl, ha, hb'⟩, haccepts⟩
      rw [← hsplit, ← List.drop_drop] at haccepts
      exact ⟨k, k' + m', Nat.add_assoc k k' m', ha, (ihb he.2 hb).mpr ⟨k', m', rfl, hb', haccepts⟩⟩
  | alt a b iha ihb =>
    rw [compileInto] at h ⊢
    have ha : Extends (compileInto a (compileInto b code next).1 next).1 code' :=
      (extends_emit _ _).trans h
    have hb : Extends (compileInto b code next).1 code' := (extends_compileInto he.1 _ _).trans ha
    rw [accepts_split_iff h.of_emit, iha he.1 ha, ihb he.2 hb]
    constructor
    · rintro (⟨k, m, hn, ha, haccepts⟩ | ⟨k, m, hn, hb, haccepts⟩)
      · exact ⟨k, m, hn, Or.inl ha, haccepts⟩
      · exact ⟨k, m, hn, Or.inr hb, haccepts⟩
    · rintro ⟨k, m, hn, ha | hb, haccepts⟩
      · exact Or.inl ⟨k, m, hn, ha, haccepts⟩
      · exact Or.inr ⟨k, m, hn, hb, haccepts⟩
  | group _ a ih =>
    rw [compileInto] at h ⊢
    exact ih he h
  | rep => exact he.elim

/-- **The program of an expression without repetitions accepts what the expression matches.** -/
theorem accepts_ofExpr_iff {e : Expr} (he : e.IsPlain) :
    Accepts (ofExpr e).code before rest (ofExpr e).entry n ↔ e.Matches before rest n := by
  have haccept : (compileInto e #[.accept] 0).1[0]? = some .accept :=
    extends_compileInto he #[.accept] 0 0 .accept rfl
  rw [ofExpr]
  dsimp only
  rw [accepts_compileInto_iff he (.refl _)]
  constructor
  · rintro ⟨k, m, rfl, hmatches, haccepts⟩
    rwa [(accepts_accept_iff haccept).mp haccepts]
  · intro hmatches
    exact ⟨n, 0, rfl, hmatches, (accepts_accept_iff haccept).mpr rfl⟩

end Program
end Deprecation.Regex
