/-
# Sizes of literals

A literal takes a state for each of its bytes, in whichever direction it is read.  In a choice
between words every byte takes two states, one for the byte and one for the choice of what comes
next; where two words differ in their first byte, they share the states of that byte and nothing
else.
-/
import Mathlib
import Deprecation.Regex

namespace Deprecation.Regex

/-! ## Bytes -/

lemma length_utf8 (c : Char) : (utf8 c.toNat).length = c.utf8Size := by
  have hval : c.toNat = c.val.toNat := rfl
  rw [utf8, hval, Char.utf8Size]
  simp only [UInt32.le_iff_toNat_le]
  split
  next h =>
    rw [if_pos (by simp; omega)]
    rfl
  next h1 =>
    split
    next h2 =>
      rw [if_neg (by simp; omega), if_pos (by simp; omega)]
      rfl
    next h2 =>
      split
      next h3 =>
        rw [if_neg (by simp; omega), if_neg (by simp; omega), if_pos (by simp; omega)]
        rfl
      next h3 =>
        rw [if_neg (by simp; omega), if_neg (by simp; omega), if_neg (by simp; omega)]
        rfl

/-- A byte below 128 stands for itself and for nothing else. -/
lemma eq_of_mem_utf8 {b n : Nat} (h : b ∈ utf8 n) (hb : b < 0x80) : b = n := by
  rw [utf8] at h
  split at h
  · exact List.mem_singleton.mp h
  · split at h
    · simp only [List.mem_cons, List.not_mem_nil, or_false] at h
      omega
    · split at h <;>
      · simp only [List.mem_cons, List.not_mem_nil, or_false] at h
        omega

lemma mem_of_mem_literalBytes {isBackward : Bool} {codes : List Nat} {b : Nat}
    (h : b ∈ literalBytes isBackward codes) (hb : b < 0x80) : b ∈ codes := by
  obtain ⟨n, hn, hmem⟩ := List.mem_flatMap.mp h
  have hutf8 : b ∈ utf8 n := by
    cases isBackward with
    | false => exact hmem
    | true => exact List.mem_reverse.mp hmem
  rwa [eq_of_mem_utf8 hutf8 hb]

@[simp] lemma byteLength_nil : byteLength [] = 0 := rfl

@[simp] lemma byteLength_cons (c : Char) (s : List Char) :
    byteLength (c :: s) = c.utf8Size + byteLength s := rfl

@[simp] lemma byteLength_append (s s' : List Char) :
    byteLength (s ++ s') = byteLength s + byteLength s' := by
  induction s with
  | nil => simp
  | cons c s ih => rw [List.cons_append, byteLength_cons, byteLength_cons, ih, Nat.add_assoc]

@[simp] lemma byteLength_reverse (s : List Char) : byteLength s.reverse = byteLength s := by
  induction s with
  | nil => rfl
  | cons c s ih => simp [ih, Nat.add_comm]

/-- A literal has as many bytes as the text that it stands for. -/
lemma length_literalBytes (isBackward : Bool) (s : List Char) :
    (literalBytes isBackward (s.map Char.toNat)).length = byteLength s := by
  induction s with
  | nil => rfl
  | cons c s ih =>
    rw [literalBytes] at ih
    rw [literalBytes, List.map_cons, List.flatMap_cons, List.length_append, ih, byteLength_cons]
    cases isBackward <;> simp [length_utf8]

lemma literalBytes_ne_nil {isBackward : Bool} {s : List Char} (hs : s ≠ []) :
    literalBytes isBackward (s.map Char.toNat) ≠ [] := by
  obtain ⟨c, s, rfl⟩ := List.exists_cons_of_ne_nil hs
  have hpos := c.utf8Size_pos
  rw [← List.length_pos_iff, length_literalBytes, byteLength_cons]
  omega

/-- Two texts do not begin with one byte if the one begins with an ASCII character that the other
does not have, and goes on with the rest of it. -/
lemma head?_literalBytes_ne {isBackward : Bool} {c d : Char} {s : List Char} (hs : s ≠ [])
    (hascii : c.toNat < 0x80) (hc : c ∉ s) :
    (literalBytes isBackward ((c :: s).map Char.toNat)).head?
      ≠ (literalBytes isBackward ((s ++ [d]).map Char.toNat)).head? := by
  have hfirst : (literalBytes isBackward ((c :: s).map Char.toNat)).head? = some c.toNat := by
    have hutf8 : utf8 c.toNat = [c.toNat] := if_pos hascii
    rw [List.map_cons, literalBytes, List.flatMap_cons, hutf8]
    cases isBackward <;> rfl
  have happend : literalBytes isBackward ((s ++ [d]).map Char.toNat)
      = literalBytes isBackward (s.map Char.toNat) ++ literalBytes isBackward [d.toNat] := by
    rw [List.map_append, literalBytes, List.flatMap_append]
    rfl
  rw [hfirst, happend, List.head?_append_of_ne_nil _ (literalBytes_ne_nil hs)]
  intro hhead
  have hmem := mem_of_mem_literalBytes (List.mem_of_head? hhead.symm) hascii
  obtain ⟨e, he, heq⟩ := List.mem_map.mp hmem
  exact hc (Char.toNat_inj.mp heq ▸ he)

/-! ## Words -/

namespace Size

variable {s : Size} {n : Nat}

@[simp] lemma plus_zero (s : Size) : s.plus 0 0 = s := rfl

@[simp] lemma plus_plus (s : Size) (n k m l : Nat) :
    (s.plus n k).plus m l = s.plus (n + m) (k + l) := by
  simp [plus, Nat.add_assoc]

/-- A word by itself. -/
lemma words_single {w : List Nat} (h : w.length ≤ n) (s : Size) :
    words n [w] s = s.plus (2 * w.length) (4 * w.length) := by
  induction w generalizing n s with
  | nil => cases n <;> simp [words]
  | cons b w ih =>
    cases n with
    | zero => simp at h
    | succ n =>
      have hstretches : stretches [b :: w] = [[b :: w]] := rfl
      have hfollowing : following b [b :: w] = [w] := by simp [following]
      have hbytes : [b].eraseDups = [b] := rfl
      have hw : w.length ≤ n := Nat.le_of_succ_le_succ h
      simp [words, hstretches, endings, hfollowing, hbytes, ih hw]
      ring_nf

/-- Two words that differ in their first byte. -/
lemma words_pair {a b : Nat} {v w : List Nat} (hab : a ≠ b) (hv : v.length ≤ n)
    (hw : w.length ≤ n) (s : Size) :
    words (n + 1) [a :: v, b :: w] s
      = s.plus (2 + 2 * (v.length + w.length)) (20 + 4 * (v.length + w.length)) := by
  have hstretches : stretches [a :: v, b :: w] = [[a :: v, b :: w]] := rfl
  have hfirst : following a [a :: v, b :: w] = [v] := by simp [following, hab.symm]
  have hsecond : following b [a :: v, b :: w] = [w] := by simp [following, hab]
  have hbytes : [a, b].eraseDups = [a, b] := by simp [List.eraseDups_cons, hab.symm]
  simp [words, hstretches, endings, hfirst, hsecond, hbytes, words_single hv, words_single hw]
  ring_nf

end Size
end Deprecation.Regex
