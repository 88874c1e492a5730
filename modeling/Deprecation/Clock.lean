/-
# The clock

Rules carry the time at which they were made.  The times come from a clock, which is given by
all the readings it will ever show; whoever takes a reading passes on the clock that is left.
-/
import Deprecation.Instant

namespace Deprecation

/-- A clock: the fields it shows at each reading, and how many readings have been taken. -/
structure Clock where
  reading : Nat → Instant.Fields
  taken : Nat

namespace Clock

/-- A clock that starts some nanoseconds after the start of 1970 and goes on by one nanosecond
with each reading. -/
def ofEpoch (nanos : Nat) : Clock := ⟨fun n => .ofEpoch (nanos + n), 0⟩

/-- The next reading.  A clock that shows no date that exists has run past the last instant. -/
def now (c : Clock) : Instant := (Instant.ofShown (c.reading c.taken)).getD .last

/-- The clock after some readings were taken. -/
def after (c : Clock) (n : Nat) : Clock := { c with taken := c.taken + n }

@[simp] theorem after_zero (c : Clock) : c.after 0 = c := rfl

@[simp] theorem after_after (c : Clock) (m n : Nat) :
    (c.after m).after n = c.after (m + n) := by
  simp [after, Nat.add_assoc]

end Clock

end Deprecation
