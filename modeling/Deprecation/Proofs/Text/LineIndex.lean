/-
# The line of a place

The line index of a text is made once, and lines are then looked up in it by bisection.  What
comes out is the line that one would count by hand: one more than the newlines in front of the
place.  The bisection is right because line starts increase; it makes no difference whether the
place is itself a line start, the end of the text, or inside a line.

Places are counted in bytes, and so are the newlines here.  In UTF-8 the byte of a newline
occurs in the code of no other character.
-/
import Mathlib
import Deprecation.Check

namespace Deprecation
namespace Text

open Regex (byteLength)

/-! ## Bisection -/

namespace LineIndex

/-- So many of the numbers, and these the first ones, are at most some number. -/
def Splits (numbers : Array Nat) (n count : Nat) : Prop :=
  count ≤ numbers.size ∧ ∀ i (hi : i < numbers.size), numbers[i] ≤ n ↔ i < count

lemma Splits.countP {numbers : Array Nat} {n count : Nat} (h : Splits numbers n count) :
    numbers.toList.countP (· ≤ n) = count := by
  obtain ⟨hcount, hiff⟩ := h
  have hfront : (numbers.toList.take count).countP (· ≤ n) = count := by
    rw [List.countP_eq_length.mpr, List.length_take, Array.length_toList,
      Nat.min_eq_left hcount]
    intro k hk
    obtain ⟨i, hi, rfl⟩ := List.mem_take_iff_getElem.mp hk
    rw [Array.length_toList] at hi
    simpa using (hiff i (by omega)).mpr (by omega)
  have hback : (numbers.toList.drop count).countP (· ≤ n) = 0 := by
    rw [List.countP_eq_zero]
    intro k hk
    obtain ⟨i, hi, rfl⟩ := List.mem_drop_iff_getElem.mp hk
    rw [Array.length_toList] at hi
    have hlarge := mt (hiff (count + i) (by omega)).mp (by omega)
    simpa [Nat.add_comm] using hlarge
  rw [← List.take_append_drop count numbers.toList, List.countP_append, hfront, hback,
    Nat.add_zero]

/-- The bisection keeps two facts: the numbers in front of the window are too small, and those
behind it are too large. -/
lemma splits_locate {numbers : Array Nat} {n low high : Nat} {h : high ≤ numbers.size}
    (hsorted : numbers.toList.Pairwise (· < ·)) (hwindow : low ≤ high)
    (hlow : ∀ i (hi : i < numbers.size), i < low → numbers[i] < n)
    (hhigh : ∀ i (hi : i < numbers.size), high ≤ i → n < numbers[i]) :
    match locate numbers n low high h with
    | .inl i => Splits numbers n (i + 1)
    | .inr i => Splits numbers n i := by
  have hlt : ∀ i j (hi : i < numbers.size) (hj : j < numbers.size), i < j →
      numbers[i] < numbers[j] := by
    intro i j hi hj hij
    have hij' := List.pairwise_iff_getElem.mp hsorted i j hi hj hij
    rwa [Array.getElem_toList, Array.getElem_toList] at hij'
  fun_induction locate numbers n low high h with
  | case1 low high h hne middle hmiddle hfound =>
    refine ⟨by omega, fun i hi => ?_⟩
    rcases Nat.lt_trichotomy i middle with him | him | him
    · have := hlt i middle hi (by omega) him
      omega
    · subst him
      omega
    · have := hlt middle i (by omega) hi him
      omega
  | case2 low high h hne middle hmiddle hdiff hsmall ih =>
    refine ih (by omega) (fun i hi him => ?_) hhigh
    rcases Nat.lt_or_eq_of_le (Nat.lt_succ_iff.mp him) with him | rfl
    · exact Nat.lt_trans (hlt i middle hi (by omega) him) hsmall
    · exact hsmall
  | case3 low high h hne middle hmiddle hdiff hlarge ih =>
    refine ih (by omega) hlow (fun i hi him => ?_)
    have hmid : n < numbers[middle] := by omega
    rcases Nat.lt_or_eq_of_le him with him | rfl
    · exact Nat.lt_trans hmid (hlt middle i (by omega) hi him)
    · exact hmid
  | case4 low high h hne =>
    refine ⟨by omega, fun i hi => ?_⟩
    constructor
    · intro hle
      by_contra hge
      have := hhigh i hi (by omega)
      omega
    · intro him
      exact Nat.le_of_lt (hlow i hi him)

/-- The line of a place is the number of the lines that start at it or in front of it. -/
theorem lineOf_eq_countP {lines : LineIndex} (h : lines.starts.toList.Pairwise (· < ·))
    (place : Nat) : lines.lineOf place = lines.starts.toList.countP (· ≤ place) := by
  have hlow : ∀ i (hi : i < lines.starts.size), i < 0 → lines.starts[i] < place :=
    fun i hi hlow => absurd hlow (Nat.not_lt_zero i)
  have hhigh : ∀ i (hi : i < lines.starts.size), lines.starts.size ≤ i → place < lines.starts[i] :=
    fun i hi hhigh => absurd hi (by omega)
  have hsplit := splits_locate (h := Nat.le_refl _) h (Nat.zero_le _) hlow hhigh
  rw [lineOf]
  cases hlocate : locate lines.starts place 0 lines.starts.size (Nat.le_refl _) with
  | inl i =>
    rw [hlocate] at hsplit
    exact hsplit.countP.symm
  | inr i =>
    rw [hlocate] at hsplit
    exact hsplit.countP.symm

/-! ## Line starts -/

lemma lt_of_mem_startsAfter {text : List Char} {place p : Nat} (h : p ∈ startsAfter place text) :
    place < p := by
  induction text generalizing place with
  | nil => cases h
  | cons c s ih =>
    have hsize := c.utf8Size_pos
    rw [startsAfter] at h
    split at h
    · rcases List.mem_cons.mp h with rfl | h
      · omega
      · have := ih h
        omega
    · have := ih h
      omega

lemma pairwise_startsAfter (place : Nat) (text : List Char) :
    (startsAfter place text).Pairwise (· < ·) := by
  induction text generalizing place with
  | nil => exact List.Pairwise.nil
  | cons c s ih =>
    rw [startsAfter]
    split
    · exact List.Pairwise.cons (fun p hp => lt_of_mem_startsAfter hp) (ih _)
    · exact ih _

/-- Of the lines that newlines start, those up to a place are as many as the newlines in front
of it. -/
lemma countP_startsAfter (place : Nat) (text : List Char) (n : Nat) :
    (startsAfter place text).countP (· ≤ place + byteLength (text.take n))
      = (text.take n).count '\n' := by
  induction text generalizing place n with
  | nil => rw [List.take_nil, startsAfter, List.countP_nil, List.count_nil]
  | cons c s ih =>
    cases n with
    | zero =>
      rw [List.take_zero, List.count_nil, List.countP_eq_zero]
      intro p hp
      have := lt_of_mem_startsAfter hp
      simpa [byteLength] using this
    | succ n =>
      have hlength : place + byteLength ((c :: s).take (n + 1))
          = place + c.utf8Size + byteLength (s.take n) := by
        rw [List.take_succ_cons, Nat.add_assoc]
        rfl
      rw [hlength, startsAfter, List.take_succ_cons, List.count_cons]
      by_cases hc : c = '\n'
      · rw [if_pos hc, List.countP_cons, ih]
        simp [hc]
      · rw [if_neg hc, ih]
        simp [hc]

/-- The line at the start of some character, counted by the newlines in front of it. -/
lemma lineOf_ofChars (text : List Char) (n : Nat) :
    (ofChars text).lineOf (byteLength (text.take n)) = 1 + (text.take n).count '\n' := by
  have hcount := countP_startsAfter 0 text n
  rw [Nat.zero_add] at hcount
  rw [lineOf_eq_countP, ofChars, List.toList_toArray, List.countP_cons, hcount]
  · simp [Nat.add_comm]
  · rw [ofChars, List.toList_toArray]
    exact List.Pairwise.cons (fun p hp => lt_of_mem_startsAfter hp) (pairwise_startsAfter 0 text)

end LineIndex

/-! ## Newlines among the bytes -/

/-- The newlines among the first so many bytes of a text. -/
def newlinesBefore (text : String) (place : Nat) : Nat :=
  (text.toUTF8.data.toList.take place).count 0x0a

lemma ofNat_eq_newline_iff {n : Nat} (h : n < 256) : UInt8.ofNat n = 0x0a ↔ n = 10 := by
  rw [← UInt8.toNat_inj, UInt8.toNat_ofNat', Nat.mod_eq_of_lt h]
  rfl

/-- No character but the newline has the byte of the newline in its code. -/
lemma count_newline_utf8EncodeChar (c : Char) :
    (String.utf8EncodeChar c).count 0x0a = if c = '\n' then 1 else 0 := by
  have hchar : c = '\n' ↔ c.val.toNat = 10 := by
    rw [← Char.val_inj, ← UInt32.toNat_inj]
    rfl
  have hbytes : ∀ n, 128 ≤ n → n < 256 → UInt8.ofNat n ≠ 0x0a := by
    intro n hn hbound heq
    have := (ofNat_eq_newline_iff hbound).mp heq
    omega
  -- the codes of longer characters have no byte below 128
  have hlong : 127 < c.val.toNat → c ≠ '\n' := by
    intro hn hc
    rw [hchar] at hc
    omega
  rw [String.utf8EncodeChar]
  split
  next hn =>
    rw [List.count_singleton]
    simp only [beq_iff_eq, ofNat_eq_newline_iff (Nat.lt_of_le_of_lt hn (by decide)), hchar]
  next hn =>
    rw [if_neg (hlong (by omega)), List.count_eq_zero]
    intro hmem
    split at hmem
    · simp only [List.mem_cons, List.not_mem_nil, or_false] at hmem
      rcases hmem with h | h <;> exact hbytes _ (by omega) (by omega) h.symm
    split at hmem
    · simp only [List.mem_cons, List.not_mem_nil, or_false] at hmem
      rcases hmem with h | h | h <;> exact hbytes _ (by omega) (by omega) h.symm
    · simp only [List.mem_cons, List.not_mem_nil, or_false] at hmem
      rcases hmem with h | h | h | h <;> exact hbytes _ (by omega) (by omega) h.symm

lemma count_newline_flatMap (text : List Char) :
    (text.flatMap String.utf8EncodeChar).count 0x0a = text.count '\n' := by
  induction text with
  | nil => rfl
  | cons c s ih =>
    rw [List.flatMap_cons, List.count_append, ih, count_newline_utf8EncodeChar, List.count_cons,
      Nat.add_comm]
    simp

lemma length_flatMap_utf8EncodeChar (text : List Char) :
    (text.flatMap String.utf8EncodeChar).length = byteLength text := by
  induction text with
  | nil => rfl
  | cons c s ih =>
    rw [List.flatMap_cons, List.length_append, String.length_utf8EncodeChar, ih]
    rfl

lemma newlinesBefore_byteLength (text : String) (n : Nat) :
    newlinesBefore text (byteLength (text.toList.take n)) = (text.toList.take n).count '\n' := by
  have hbytes : text.toUTF8.data.toList
      = (text.toList.take n).flatMap String.utf8EncodeChar
        ++ (text.toList.drop n).flatMap String.utf8EncodeChar := by
    rw [← List.flatMap_append, List.take_append_drop]
    conv_lhs => rw [← String.ofList_toList (s := text)]
    rw [String.toUTF8_eq_toByteArray, String.toByteArray_ofList, List.utf8Encode,
      List.data_toByteArray]
  rw [newlinesBefore, hbytes, ← length_flatMap_utf8EncodeChar, List.take_left,
    count_newline_flatMap]

/-- **The line of a place is counted from the bytes in front of it.**  At the start of any
character of a text, and at its end, the line index gives one more than the newline bytes in
front of it. -/
theorem lineOf_eq_newlinesBefore (text : String) (n : Nat) :
    (LineIndex.ofChars text.toList).lineOf (byteLength (text.toList.take n))
      = 1 + newlinesBefore text (byteLength (text.toList.take n)) := by
  rw [LineIndex.lineOf_ofChars, newlinesBefore_byteLength]

end Text
end Deprecation
