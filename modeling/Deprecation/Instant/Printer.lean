/-
# Writing instants

An instant is written `2024-01-31T08:05:00Z`, with three, six or nine digits behind a point
after the seconds when the shorter forms would lose something.  A year outside 0 to 9999 is
written with its sign.  The end of the text names the zone; rules and entries write `Z` and
reports write `+00:00`.
-/
import Deprecation.Instant

namespace Deprecation.Instant

/-- A number with at least so many digits. -/
def padded (width n : Nat) : List Char :=
  let digits := Nat.toDigits 10 n
  List.replicate (width - digits.length) '0' ++ digits

/-- The year. -/
def yearText (year : Int) : List Char :=
  if 0 ≤ year ∧ year ≤ 9999 then padded 4 year.toNat
  else (if year < 0 then '-' else '+') :: padded 4 year.natAbs

/-- The fraction of a second. -/
def fractionText (nano : Nat) : List Char :=
  if nano = 0 then []
  else if nano % 1000000 = 0 then '.' :: padded 3 (nano / 1000000)
  else if nano % 1000 = 0 then '.' :: padded 6 (nano / 1000)
  else '.' :: padded 9 nano

/-- The fields in which an instant is shown, with a given name of the zone. -/
def textIn (zone : List Char) (t : Fields) : List Char :=
  yearText t.year ++ '-' :: padded 2 t.month ++ '-' :: padded 2 t.day
    ++ 'T' :: padded 2 t.hour ++ ':' :: padded 2 t.minute ++ ':' :: padded 2 t.second
    ++ fractionText t.nano ++ zone

/-- An instant as rules and entries write it. -/
def toText (t : Instant) : String :=
  String.ofList (textIn ['Z'] t.shown)

/-- An instant as reports write it. -/
def toReportText (t : Instant) : String :=
  String.ofList (textIn "+00:00".toList t.shown)

end Deprecation.Instant
