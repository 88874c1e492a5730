/-
# Reading instants

An instant is read from a date, a separator, a time of day and a zone.  The form is that of
the printer, relaxed in these points: numbers may have fewer digits, and may be preceded by
blanks; blanks may stand before the dashes and colons, before the zone and at the end; the
separator is `t`, `T` or a space; a year with a sign may have any number of digits; digits
beyond the ninth of a fraction are dropped.

The zone is `Z`, `UTC`, in either case, or hours and minutes ahead of UTC with a sign, which
may be a true minus sign.  Colons and blanks may stand between the hours and minutes.  The
result is in UTC.
-/
import Deprecation.Instant
import Deprecation.Text.Blank

namespace Deprecation.Instant

open Text

/-- A number of one to `most` digits, and the rest. -/
def takeNumber (most : Nat) (s : List Char) : Option (Nat × List Char) :=
  let digits := (s.take most).takeWhile isAsciiDigit
  if digits.isEmpty then none
  else some (Nat.ofDigitChars 10 digits 0, s.drop digits.length)

/-- A number of any length, and the rest. -/
def takeLongNumber (s : List Char) : Option (Nat × List Char) :=
  takeNumber s.length s

/-- A year, and the rest. -/
def takeYear (s : List Char) : Option (Int × List Char) :=
  match trimStart s with
  | '-' :: s => (takeLongNumber s).map fun r => (-(r.1 : Int), r.2)
  | '+' :: s => (takeLongNumber s).map fun r => ((r.1 : Int), r.2)
  | s => (takeNumber 4 s).map fun r => ((r.1 : Int), r.2)

/-- A number of one or two digits after a separator, and the rest. -/
def takePart (separator : Char) (s : List Char) : Option (Nat × List Char) :=
  match trimStart s with
  | c :: s => if c = separator then takeNumber 2 (trimStart s) else none
  | [] => none

/-- The nanoseconds of a fraction, and the rest. -/
def takeFraction (s : List Char) : Option (Nat × List Char) :=
  match s with
  | '.' :: s =>
    let digits := s.takeWhile isAsciiDigit
    if digits.isEmpty then none
    else
      let kept := digits.take 9
      some (Nat.ofDigitChars 10 kept 0 * Nat.pow 10 (9 - kept.length), s.dropWhile isAsciiDigit)
  | _ => some (0, s)

/-- The minutes that a zone is ahead of UTC after its sign, and the rest. -/
def takeMinutesAhead (s : List Char) : Option (Nat × List Char) :=
  match s with
  | h1 :: h2 :: s =>
    match s.dropWhile fun c => c = ':' || isBlank c with
    | m1 :: m2 :: rest =>
      if [h1, h2, m1, m2].all isAsciiDigit ∧ m1 ≤ '5' then
        some (60 * Nat.ofDigitChars 10 [h1, h2] 0 + Nat.ofDigitChars 10 [m1, m2] 0, rest)
      else none
    | _ => none
  | _ => none

/-- The minutes that a zone is ahead of UTC, and the rest. -/
def takeZone (s : List Char) : Option (Int × List Char) :=
  match s with
  | [] => none
  | c :: rest =>
    if ((s.take 3).map Char.toLower) = "utc".toList then some (0, s.drop 3)
    else if c = 'Z' ∨ c = 'z' then some (0, rest)
    else if c = '+' then (takeMinutesAhead rest).map fun r => ((r.1 : Int), r.2)
    else if c = '-' ∨ c = '\u2212' then
      (takeMinutesAhead rest).map fun r => (-(r.1 : Int), r.2)
    else none

/-- Whether a character separates date and time. -/
def isSeparator (c : Char) : Bool :=
  c = 't' || c = 'T' || c = ' '

/-- Reads an instant from a list of characters. -/
def read (s : List Char) : Option Instant := do
  let (year, s) ← takeYear s
  let (month, s) ← takePart '-' s
  let (day, s) ← takePart '-' s
  let s ← match s with
    | c :: s => if isSeparator c then some (trimStart s) else none
    | [] => none
  let (hour, s) ← takeNumber 2 s
  let (minute, s) ← takePart ':' s
  let (second, s) ← takePart ':' s
  let (nano, s) ← takeFraction s
  let (ahead, s) ← takeZone (trimStart s)
  let shown : Fields := ⟨year, month, day, hour, minute, second, nano⟩
  if shown.isShown ∧ ahead.natAbs < 1440 ∧ (trimStart s).isEmpty then ofLocal shown ahead
  else none

/-- Reads an instant. -/
def ofText (s : String) : Option Instant :=
  read s.toList

end Deprecation.Instant
