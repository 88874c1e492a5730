/-
# Instants

A rule carries the instant at which it was made and an entry the instant at which it was last
verified.  An instant is a date that exists and a time of day in UTC, to the nanosecond.  In a
leap second the nanoseconds go on past the end of the second, up to twice as many as a second
has.  With this, earlier and later is the lexicographic order of the fields.

Clocks and texts show a leap second as second 60, which comes only at the end of a minute.  An
instant that has gone on past the end of any other second has no form of its own: it is shown
as part of the next second, just like another instant.  There has been no such time, no clock
shows one and none is read from a text; but a rule or an entry can be made with one.
-/
import Deprecation.Text.Word

namespace Deprecation

/-- The fields of a date and a time of day, whether or not there are such. -/
structure Instant.Fields where
  year : Int
  month : Nat
  day : Nat
  hour : Nat
  minute : Nat
  second : Nat
  nano : Nat
deriving DecidableEq, Repr

/-! ## The calendar -/

namespace Calendar

/-- Every fourth year is a leap year, of the hundredth ones only every fourth. -/
def isLeap (year : Int) : Bool :=
  year % 4 == 0 && (year % 100 != 0 || year % 400 == 0)

/-- The number of days of a month. -/
def daysIn (year : Int) (month : Nat) : Nat :=
  if month = 2 then (if isLeap year then 29 else 28)
  else if month = 4 ∨ month = 6 ∨ month = 9 ∨ month = 11 then 30
  else 31

/-- The first year that has dates. -/
def firstYear : Int := -262143

/-- The last year that has dates. -/
def lastYear : Int := 262142

/-- Whether a date exists. -/
def isDate (year : Int) (month day : Nat) : Bool :=
  firstYear ≤ year && year ≤ lastYear && 1 ≤ month && month ≤ 12
    && 1 ≤ day && day ≤ daysIn year month

/-- The date after a date. -/
def next (year : Int) (month day : Nat) : Int × Nat × Nat :=
  if day < daysIn year month then (year, month, day + 1)
  else if month < 12 then (year, month + 1, 1)
  else (year + 1, 1, 1)

/-- The date before a date. -/
def previous (year : Int) (month day : Nat) : Int × Nat × Nat :=
  if 1 < day then (year, month, day - 1)
  else if 1 < month then (year, month - 1, daysIn year (month - 1))
  else (year - 1, 12, 31)

/-- The date that is some days after the first of January 1970.  Years are counted from March,
so that a leap day is the last day of its year; 400 years have 146097 days. -/
def ofDay (days : Nat) : Int × Nat × Nat :=
  let shifted := days + 719468
  let day := shifted % 146097
  let year := (day - day / 1460 + day / 36524 - day / 146096) / 365
  let dayOfYear := day - (365 * year + year / 4 - year / 100)
  let month := (5 * dayOfYear + 2) / 153
  let dayOfMonth := dayOfYear - (153 * month + 2) / 5 + 1
  let january : Nat := if month < 10 then 0 else 1
  ((year + 400 * (shifted / 146097) + january : Nat), month + 3 - 12 * january, dayOfMonth)

example : ofDay 0 = (1970, 1, 1) := by decide

example : ofDay 19782 = (2024, 2, 29) := by decide

end Calendar

namespace Instant.Fields

/-- Whether the fields name a minute of a date that exists. -/
def isMinute (t : Fields) : Bool :=
  Calendar.isDate t.year t.month t.day && t.hour < 24 && t.minute < 60

/-- Whether the fields are those of an instant, which may go on past the end of its second. -/
def isValid (t : Fields) : Bool :=
  t.isMinute && t.second < 60 && t.nano < 2000000000

/-- Whether the fields are as clocks and texts show them, up to second 60 of a minute. -/
def isShown (t : Fields) : Bool :=
  t.isMinute && t.second ≤ 60 && t.nano < 1000000000

/-- The fields with second 60 counted as the time past the end of second 59. -/
def counted (t : Fields) : Fields :=
  if t.second = 60 then { t with second := 59, nano := t.nano + 1000000000 } else t

/-- The fields with the time past the end of a second shown as that of the next second. -/
def shown (t : Fields) : Fields :=
  { t with
    second := t.second + t.nano / 1000000000
    nano := t.nano % 1000000000 }

theorem isValid_counted {t : Fields} (h : t.isShown = true) : t.counted.isValid = true := by
  simp only [isShown, Bool.and_eq_true, decide_eq_true_eq] at h
  obtain ⟨⟨hminute, hsecond⟩, hnano⟩ := h
  simp only [isValid, Bool.and_eq_true, decide_eq_true_eq]
  rw [counted]
  split
  · have hbeyond : t.nano + 1000000000 < 2000000000 := by omega
    exact ⟨⟨hminute, Nat.lt_succ_self 59⟩, hbeyond⟩
  · exact ⟨⟨hminute, by omega⟩, by omega⟩

/-- The fields of the time some nanoseconds after the start of 1970. -/
def ofEpoch (nanos : Nat) : Fields :=
  let seconds := nanos / 1000000000
  let (year, month, day) := Calendar.ofDay (seconds / 86400)
  { year, month, day
    hour := seconds % 86400 / 3600
    minute := seconds % 3600 / 60
    second := seconds % 60
    nano := nanos % 1000000000 }

end Instant.Fields

/-- A date and a time of day in UTC. -/
structure Instant extends Instant.Fields where
  valid : toFields.isValid = true
deriving DecidableEq, Repr

namespace Instant

/-- The fields of an instant in the order in which they are compared. -/
def key (t : Instant) : List Int :=
  [t.year, t.month, t.day, t.hour, t.minute, t.second, t.nano]

instance : LT Instant := ⟨fun a b => a.key < b.key⟩

instance (a b : Instant) : Decidable (a < b) :=
  inferInstanceAs (Decidable (a.key < b.key))

theorem lt_iff {a b : Instant} : a < b ↔ a.key < b.key := Iff.rfl

theorem key_injective {a b : Instant} (h : a.key = b.key) : a = b := by
  obtain ⟨⟨_⟩, _⟩ := a
  obtain ⟨⟨_⟩, _⟩ := b
  simp only [key, List.cons.injEq, Int.natCast_inj, and_true] at h
  simp [h]

/-- The last instant. -/
def last : Instant where
  year := Calendar.lastYear
  month := 12
  day := 31
  hour := 23
  minute := 59
  second := 59
  nano := 1999999999
  valid := by decide

instance : Inhabited Instant := ⟨last⟩

/-- The instant that is shown in some fields, if there is one. -/
def ofShown (t : Fields) : Option Instant :=
  if h : t.isShown = true then some ⟨t.counted, Fields.isValid_counted h⟩ else none

/-- The instant that a clock in a zone ahead of UTC by some minutes shows in these fields, if
its date exists. -/
def ofLocal (t : Fields) (ahead : Int) : Option Instant :=
  let total : Int := t.hour * 60 + t.minute - ahead
  let (year, month, day) :=
    if total < 0 then Calendar.previous t.year t.month t.day
    else if 1440 ≤ total then Calendar.next t.year t.month t.day
    else (t.year, t.month, t.day)
  let minutes := (total % 1440).toNat
  ofShown { t with year, month, day, hour := minutes / 60, minute := minutes % 60 }

end Instant

end Deprecation
