/-
# Numbers, truth values and times in TOML

A value that is no string, list or table is a run of letters, digits and a few signs.  The
run as a whole is a truth value, an integer, another number, or a time.

Underscores may stand between two digits.  A decimal number has no leading zeros.  A time is
a date, a time of day or both, and with both an offset may follow; its parts have to be in
range.
-/
import Deprecation.Datum.Spelling
import Deprecation.Instant

namespace Deprecation.Toml

/-! ## Digits -/

/-- A binary, octal or hexadecimal digit, by its value. -/
def digitBelow (base : Nat) (c : Char) : Bool :=
  let value :=
    if c.isDigit then c.toNat - 48
    else if 'a' ≤ c ∧ c ≤ 'f' then c.toNat - 87
    else if 'A' ≤ c ∧ c ≤ 'F' then c.toNat - 55
    else 16
  value < base

/-- Digits without the underscores between them.  An underscore has a digit on both
sides. -/
def digits (isDigit : Char → Bool) : List Char → Option (List Char)
  | [] => none
  | [c] => if isDigit c then some [c] else none
  | c :: '_' :: rest =>
    if isDigit c then (digits isDigit rest).map (c :: ·) else none
  | c :: rest => if isDigit c then (digits isDigit rest).map (c :: ·) else none

/-- The digits of a decimal number, which begin with zero only if there is no other. -/
def decimalDigits (s : List Char) : Option (List Char) :=
  match s with
  | '0' :: _ :: _ => none
  | _ => digits Char.isDigit s

/-- A sign, if there is one, and what follows. -/
def signed : List Char → Bool × List Char
  | '-' :: rest => (true, rest)
  | '+' :: rest => (false, rest)
  | s => (false, s)

/-! ## Numbers -/

/-- The number that digits spell in a base. -/
def numberOf (base : Nat) (s : List Char) : Nat :=
  s.foldl (fun n c =>
    base * n + (if c.isDigit then c.toNat - 48 else if 'a' ≤ c then c.toNat - 87 else c.toNat - 55))
    0

/-- An integer of 64 bits with a sign. -/
def inRange (n : Int) : Option Int :=
  if -(Int.pow 2 63) ≤ n ∧ n < Int.pow 2 63 then some n else none

/-- An integer. -/
def integer (s : List Char) : Option Int :=
  match s with
  | '0' :: 'x' :: rest => (digits (digitBelow 16) rest).map (numberOf 16) >>= (inRange ·)
  | '0' :: 'o' :: rest => (digits (digitBelow 8) rest).map (numberOf 8) >>= (inRange ·)
  | '0' :: 'b' :: rest => (digits (digitBelow 2) rest).map (numberOf 2) >>= (inRange ·)
  | _ => do
    let (negative, rest) := signed s
    let n := numberOf 10 (← decimalDigits rest)
    inRange (if negative then -(n : Int) else n)

/-- Whether a text is an exponent without its letter. -/
def isExponent (s : List Char) : Bool := (digits Char.isDigit (signed s).2).isSome

/-- Whether a text without a sign is a decimal number with a fraction or an exponent. -/
def isFraction (s : List Char) : Bool :=
  let mantissa := s.takeWhile fun c => c ≠ 'e' ∧ c ≠ 'E'
  let exponent := s.dropWhile fun c => c ≠ 'e' ∧ c ≠ 'E'
  let whole := mantissa.takeWhile (· ≠ '.')
  let fraction := mantissa.dropWhile (· ≠ '.')
  (decimalDigits whole).isSome
    && (fraction.isEmpty || (digits Char.isDigit (fraction.drop 1)).isSome)
    && (exponent.isEmpty || isExponent (exponent.drop 1))
    && !(fraction.isEmpty && exponent.isEmpty)

/-- Whether a text is a number with a fraction or an exponent, infinity, or no number at
all, under its name.  A number above all doubles is refused; one below is not. -/
def isReal (s : List Char) : Bool :=
  let (negative, rest) := signed s
  rest = "inf".toList || rest = "nan".toList
    || (isFraction rest && (negative || Datum.isFinite (String.ofList rest)))

/-! ## Times -/

/-- Two digits and what follows them. -/
def twoDigits : List Char → Option (Nat × List Char)
  | a :: b :: rest =>
    if a.isDigit ∧ b.isDigit then some (numberOf 10 [a, b], rest) else none
  | _ => none

/-- Reads a date. -/
def date : List Char → Option (List Char)
  | a :: b :: c :: d :: '-' :: rest => do
    let year ← digits Char.isDigit [a, b, c, d]
    if year.length ≠ 4 then none
    match ← twoDigits rest with
    | (month, '-' :: rest) =>
      let (day, rest) ← twoDigits rest
      if Calendar.isDate (numberOf 10 year) month day then some rest else none
    | _ => none
  | _ => none

/-- Reads the fraction of a second, if there is one. -/
def secondFraction : List Char → Option (List Char)
  | '.' :: c :: rest => if c.isDigit then some (rest.dropWhile Char.isDigit) else none
  | '.' :: [] => none
  | rest => some rest

/-- Reads hours and minutes. -/
def hoursAndMinutes (s : List Char) : Option (List Char) := do
  match ← twoDigits s with
  | (hour, ':' :: rest) =>
    let (minute, rest) ← twoDigits rest
    if hour < 24 ∧ minute < 60 then some rest else none
  | _ => none

/-- Reads a time of day. -/
def timeOfDay (s : List Char) : Option (List Char) := do
  match ← hoursAndMinutes s with
  | ':' :: rest =>
    let (second, rest) ← twoDigits rest
    if second ≤ 60 then secondFraction rest else none
  | _ => none

/-- Whether a text is nothing or an offset from UTC. -/
def isOffset : List Char → Bool
  | [] | ['Z'] | ['z'] => true
  | c :: rest => (c = '+' || c = '-') && hoursAndMinutes rest == some []

/-- Whether a text is a time of day with or without an offset. -/
def isZonedTime (s : List Char) : Bool :=
  match timeOfDay s with
  | some rest => isOffset rest
  | none => false

/-- Whether a text is a time. -/
def isTime (s : List Char) : Bool :=
  match date s with
  | some [] => true
  | some (c :: rest) => (c = 'T' || c = 't' || c = ' ') && isZonedTime rest
  | none => timeOfDay s == some []

/-- A time as a datum: a table with a field of no structure. -/
def timeDatum (s : List Char) : Datum := .record [("datetime", .str (String.ofList s))]

/-! ## The value of a run -/

/-- A character of a run. -/
def inRun (c : Char) : Bool :=
  c.isAlphanum || c = '+' || c = '-' || c = '_' || c = '.' || c = ':'

/-- The value that a run stands for. -/
def scalar (s : List Char) : Option Datum :=
  if s = "true".toList then some (.bool true)
  else if s = "false".toList then some (.bool false)
  else match integer s with
    | some n => some (.int n)
    | none =>
      if isReal s then some (.real (String.ofList s))
      else if isTime s then some (timeDatum s)
      else none

/-- Reads a run, with a time of day after a date and a space taken in. -/
def run (s : List Char) : List Char × List Char :=
  let first := s.takeWhile inRun
  match s.dropWhile inRun with
  | ' ' :: c :: rest =>
    if date first = some [] ∧ c.isDigit then
      (first ++ ' ' :: c :: rest.takeWhile inRun, rest.dropWhile inRun)
    else (first, ' ' :: c :: rest)
  | rest => (first, rest)

/-- Reads a value that is a run. -/
def readScalar (s : List Char) : Option (Datum × List Char) :=
  (scalar (run s).1).map (·, (run s).2)

end Deprecation.Toml
