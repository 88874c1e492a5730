/-
# Sequences of bytes

Written in UTF-8, the characters between two code points are not the texts between two texts.
They are a few *sequences*, lists of ranges of bytes: a sequence stands for every text whose
first byte lies in its first range, whose second byte lies in its second range, and so on.

A range of characters is cut where the length of the encoding changes, and where one byte
would have to restrict a later one.  What is left is a single sequence.
-/
import Deprecation.Text.Ranges

namespace Deprecation.Regex

/-- A closed range of bytes. -/
abbrev ByteRange := Nat × Nat

/-- The bytes of a code point in UTF-8. -/
def utf8 (n : Nat) : List Nat :=
  if n < 0x80 then [n]
  else if n < 0x800 then [0xC0 + n / 64, 0x80 + n % 64]
  else if n < 0x10000 then [0xE0 + n / 64 / 64, 0x80 + n / 64 % 64, 0x80 + n % 64]
  else [0xF0 + n / 64 / 64 / 64, 0x80 + n / 64 / 64 % 64, 0x80 + n / 64 % 64, 0x80 + n % 64]

/-- The end of the first part of a range that lies in several blocks of a size, if its first
or its last block is not a whole one. -/
def cutAtBlock (block low high : Nat) : Option Nat :=
  if low / block = high / block then none
  else if low % block ≠ 0 then some (low / block * block + (block - 1))
  else if high % block ≠ block - 1 then some (high / block * block - 1)
  else none

/-- The sizes of blocks of characters that differ in their last bytes only. -/
def blocks : List Nat := [64, 64 * 64, 64 * 64 * 64]

/-- The end of the first part of a range of characters that is no single sequence. -/
def cut? (low high : Nat) : Option Nat :=
  match [0x7F, 0x7FF, 0xFFFF].find? fun m => low ≤ m && m < high with
  | some m => some m
  | none =>
    if high < 0x80 then none else blocks.findSome? fun block => cutAtBlock block low high

theorem cutAtBlock_bounds {block low high m : Nat} (hb : block ∈ blocks) (h : low ≤ high)
    (hm : cutAtBlock block low high = some m) : low ≤ m ∧ m < high := by
  simp only [blocks, List.mem_cons, List.not_mem_nil, or_false] at hb
  simp only [cutAtBlock, ne_eq, ite_not] at hm
  rcases hb with rfl | rfl | rfl <;> (repeat' split at hm) <;> simp at hm <;> omega

/-- A range is cut into two parts that are not empty. -/
theorem cut?_bounds {low high m : Nat} (h : low ≤ high) (hm : cut? low high = some m) :
    low ≤ m ∧ m < high := by
  simp only [cut?] at hm
  split at hm
  · next hf =>
    cases hm
    simpa using List.find?_some hf
  · split at hm
    · cases hm
    · obtain ⟨block, hb, hc⟩ := List.exists_of_findSome?_eq_some hm
      exact cutAtBlock_bounds hb h hc

/-- The sequences of the characters between two code points, without surrogates, in order. -/
def sequences (low high : Nat) : List (List ByteRange) :=
  if h : low ≤ high then
    match hm : cut? low high with
    | none => [(utf8 low).zip (utf8 high)]
    | some m =>
      have := cut?_bounds h hm
      sequences low m ++ sequences (m + 1) high
  else []
termination_by high - low

end Deprecation.Regex
