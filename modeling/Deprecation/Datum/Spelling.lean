/-
# Spelled numbers

A number that is no integer of 64 bits is kept as it is spelled.  All that is ever asked of
it is whether it is read as a finite double.

Reading is exact in one notation and quick in the other.  An exact reader rounds the number
once.  A quick reader takes as many leading digits as make a number of 64 bits, rounds that
to a double, and multiplies it with the power of ten that is missing, which rounds twice
more.  So the two differ near the greatest double.
-/
import Deprecation.Datum

namespace Deprecation.Datum

/-- The least number that rounds to no double: half a unit above the greatest double. -/
def beyondDoubles : Nat := Nat.pow 2 1024 - Nat.pow 2 970

/-! ## Exact reading -/

/-- The digits of a number's spelling before its exponent, how many of them stand behind the
point, and the exponent. -/
def spellingParts (spelling : List Char) : List Char × Nat × Int :=
  let mantissa := spelling.takeWhile fun c => c ≠ 'e' ∧ c ≠ 'E'
  let rest := (spelling.dropWhile fun c => c ≠ 'e' ∧ c ≠ 'E').drop 1
  let digits := mantissa.filter Char.isDigit
  let behind := ((mantissa.dropWhile (· ≠ '.')).filter Char.isDigit).length
  let magnitude := Nat.ofDigitChars 10 (rest.filter Char.isDigit) 0
  (digits, behind, if rest.head? = some '-' then -(magnitude : Int) else magnitude)

/-- Whether a number's spelling rounds to a finite double. -/
def isFinite (spelling : String) : Bool :=
  let (digits, behind, exponent) := spellingParts spelling.toList
  let significant := digits.dropWhile (· = '0')
  let scale : Int := exponent - behind
  let size : Int := significant.length + scale
  if significant.isEmpty || size < 300 then true
  else if 320 < size then false
  else
    let n := Nat.ofDigitChars 10 significant 0
    if 0 ≤ scale then n * Nat.pow 10 scale.toNat < beyondDoubles
    else n < beyondDoubles * Nat.pow 10 scale.natAbs

/-! ## Quick reading -/

/-- The nearest natural number of 53 binary digits and zeros; of two, the one whose last
binary digit before the zeros is zero. -/
def rounded (n : Nat) : Nat :=
  let unit := Nat.pow 2 (n.log2 - 52)
  let below := n / unit
  let left := n % unit
  if unit < 2 * left ∨ (unit = 2 * left ∧ below % 2 = 1) then (below + 1) * unit
  else below * unit

/-- Adds digits to a number as long as it stays below 2⁶⁴; gives the number and the digits
left. -/
def leading (n : Nat) : List Char → Nat × List Char
  | [] => (n, [])
  | c :: s =>
    let n' := 10 * n + (c.toNat - 48)
    if n' < Nat.pow 2 64 then leading n' s else (n, c :: s)

/-- The greatest exponent that a quick reader looks at. -/
def maxExponent : Nat := Nat.pow 2 31 - 1

/-- Whether a number's spelling is finite for a quick reader. -/
def isQuicklyFinite (spelling : String) : Bool :=
  let (digits, behind, exponent) := spellingParts spelling.toList
  let (n, wholeLeft) := leading 0 (digits.take (digits.length - behind))
  let fraction := digits.drop (digits.length - behind)
  let (n, fractionLeft) := leading n fraction
  let scale : Int :=
    exponent + wholeLeft.length - (fraction.length - fractionLeft.length : Nat)
  if n = 0 then true
  else if (maxExponent : Int) < exponent then false
  else if exponent < -(maxExponent : Int) || scale < 0 then true
  else scale ≤ 308 && rounded n * rounded (Nat.pow 10 scale.toNat) < beyondDoubles

end Deprecation.Datum
