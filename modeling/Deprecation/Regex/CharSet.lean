/-
# Sets of characters

A set of characters is kept as it is described: by ranges, by named classes, by the
operations of set algebra, and by closing a set under change of case.  All that matters of a
set is which code points it has.
-/
import Deprecation.Text.Blank
import Deprecation.Text.Word
import Deprecation.Unicode.Folding

namespace Deprecation.Regex

open Text

/-- A description of a set of characters. -/
inductive CharSet where
  /-- No character. -/
  | none
  /-- The code points from `low` to `high`. -/
  | range (low high : Nat)
  /-- The code points in a table. -/
  | table (ranges : Ranges)
  /-- The word characters. -/
  | word
  /-- The decimal digits. -/
  | digit
  /-- The blanks. -/
  | blank
  | union (a b : CharSet)
  | inter (a b : CharSet)
  | diff (a b : CharSet)
  | symmDiff (a b : CharSet)
  | compl (a : CharSet)
  /-- The characters that differ from a member at most in case. -/
  | folded (a : CharSet)
  /-- The characters that differ from a member at most in the case of an ASCII letter. -/
  | asciiFolded (a : CharSet)
deriving Repr, Inhabited

namespace CharSet

/-- A code point with the case of an ASCII letter changed. -/
def otherCase (n : Nat) : Nat :=
  if 0x41 ≤ n ∧ n ≤ 0x5A then n + 0x20 else if 0x61 ≤ n ∧ n ≤ 0x7A then n - 0x20 else n

/-- Whether a set has a code point. -/
def hasCode : CharSet → Nat → Bool
  | none, _ => false
  | range low high, n => low ≤ n && n ≤ high
  | table ranges, n => ranges.has n
  | word, n => isWord (Char.ofNat n)
  | digit, n => isDigit (Char.ofNat n)
  | blank, n => isBlank (Char.ofNat n)
  | union a b, n => a.hasCode n || b.hasCode n
  | inter a b, n => a.hasCode n && b.hasCode n
  | diff a b, n => a.hasCode n && !b.hasCode n
  | symmDiff a b, n => a.hasCode n != b.hasCode n
  | compl a, n => !a.hasCode n
  | folded a, n => (Unicode.alike n).any a.hasCode
  | asciiFolded a, n => a.hasCode n || a.hasCode (otherCase n)

/-- Whether a set has a character. -/
def has (s : CharSet) (c : Char) : Bool := s.hasCode c.toNat

/-- The set of one character. -/
def single (c : Char) : CharSet := range c.toNat c.toNat

theorem has_single {c d : Char} : (single c).has d = true ↔ d = c := by
  simp only [has, single, hasCode, Bool.and_eq_true, decide_eq_true_eq]
  constructor
  · intro h
    exact Char.toNat_inj.mp (by omega)
  · rintro rfl
    omega

/-- The union of many sets. -/
def unions (sets : List CharSet) : CharSet := sets.foldr union none

/-- The closure of a set under change of case. -/
def fold (unicode : Bool) (s : CharSet) : CharSet :=
  if unicode then folded s else asciiFolded s

/-! ## Ranges -/

/-- What the code points of an ordered table are alike to, by an ordered table of classes. -/
def alikeIn : Ranges → List (Nat × List Nat) → List Nat
  | [], _ => []
  | _, [] => []
  | (low, high) :: r, (n, c) :: t =>
    if n < low then alikeIn ((low, high) :: r) t
    else if n ≤ high then c ++ alikeIn ((low, high) :: r) t
    else alikeIn r ((n, c) :: t)
termination_by r t => r.length + t.length

/-- The small ASCII letters of a table as capitals, and the capitals as small letters. -/
def otherCases (r : Ranges) : Ranges :=
  let capitals := Ranges.inter r [(0x41, 0x5A)]
  let small := Ranges.inter r [(0x61, 0x7A)]
  capitals.map (fun p => (p.1 + 0x20, p.2 + 0x20)) ++
    small.map (fun p => (p.1 - 0x20, p.2 - 0x20))

/-- The surrogates, which are no characters. -/
def surrogates : Ranges := [(0xD800, 0xDFFF)]

/-- The code points of a set, surrogates perhaps among them. -/
def codes : CharSet → Ranges
  | none => []
  | range low high => Ranges.normal [(low, high)]
  | table ranges => ranges.normal
  | word => Ranges.union [(0x30, 0x39), (0x41, 0x5A), (0x5F, 0x5F), (0x61, 0x7A)] wordRanges
  | digit => Ranges.union [(0x30, 0x39)] decimalRanges
  | blank => Ranges.ofText "9-D 20 85 A0 1680 2000-200A 2028-2029 202F 205F 3000"
  | union a b => Ranges.union a.codes b.codes
  | inter a b => Ranges.inter a.codes b.codes
  | diff a b => Ranges.diff a.codes b.codes
  | symmDiff a b =>
    Ranges.union (Ranges.diff a.codes b.codes) (Ranges.diff b.codes a.codes)
  | compl a => Ranges.compl a.codes
  | folded a =>
    let alike := alikeIn a.codes Unicode.foldingTable
    Ranges.union a.codes (alike.map fun n => (n, n))
  | asciiFolded a => Ranges.union a.codes (otherCases a.codes)

/-- The characters of a set as a table. -/
def ranges (s : CharSet) : Ranges := Ranges.diff s.codes surrogates

end CharSet

end Deprecation.Regex
