/-
# Tables of code point ranges

A class of characters that no short test describes is given as a table: a list of closed
ranges of code points, in increasing order and apart from each other.  Membership walks the
list and stops at the first range that starts beyond the code point.  A long table may be
written as text, one range after another in hexadecimal (`41-5A 61-7A B5`).

Tables are joined, intersected and subtracted; the results are in order, and no two of their
ranges touch.
-/

namespace Deprecation.Text

/-- A table of closed code point ranges, in increasing order. -/
abbrev Ranges := List (Nat × Nat)

namespace Ranges

/-- Whether a code point lies in one of the ranges of an ordered table. -/
def has : Ranges → Nat → Bool
  | [], _ => false
  | (low, high) :: rest, n =>
    if n < low then false else if n ≤ high then true else has rest n

@[simp] theorem has_nil (n : Nat) : has [] n = false := rfl

theorem has_cons (low high : Nat) (rest : Ranges) (n : Nat) :
    has ((low, high) :: rest) n =
      if n < low then false else if n ≤ high then true else has rest n := rfl

/-- A code point that a table has lies in one of its ranges. -/
theorem exists_of_has {t : Ranges} {n : Nat} (h : t.has n = true) :
    ∃ r ∈ t, r.1 ≤ n ∧ n ≤ r.2 := by
  induction t with
  | nil => simp at h
  | cons r rest ih =>
    obtain ⟨low, high⟩ := r
    rw [has_cons] at h
    split at h
    · cases h
    · split at h
      · exact ⟨(low, high), by simp, by omega, by assumption⟩
      · obtain ⟨r, hr, hn⟩ := ih h
        exact ⟨r, by simp [hr], hn⟩

/-! ## Set algebra -/

/-- Puts a range in front of a table that begins no earlier; ranges that touch become one. -/
def attach (r : Nat × Nat) : Ranges → Ranges
  | [] => [r]
  | (low, high) :: rest =>
    if low ≤ r.2 + 1 then attach (r.1, max r.2 high) rest else r :: (low, high) :: rest

/-- The table of ranges in any order, which may overlap. -/
def normal (t : Ranges) : Ranges :=
  ((t.filter fun r => r.1 ≤ r.2).mergeSort fun p q => p.1 ≤ q.1).foldr attach []

/-- The code points in either table. -/
def union (a b : Ranges) : Ranges := normal (a ++ b)

/-- The greatest code point. -/
def maxCode : Nat := 0x10FFFF

/-- The code points from `start` on that an ordered table leaves out. -/
def gaps (start : Nat) : Ranges → Ranges
  | [] => if start ≤ maxCode then [(start, maxCode)] else []
  | (low, high) :: rest =>
    if start < low then (start, low - 1) :: gaps (high + 1) rest else gaps (high + 1) rest

/-- The code points that are not in an ordered table. -/
def compl (t : Ranges) : Ranges := gaps 0 t

/-- The code points of one ordered table that are not in another. -/
def diff (a b : Ranges) : Ranges := compl (union (compl a) b)

/-- The code points in both of two ordered tables. -/
def inter (a b : Ranges) : Ranges := compl (union (compl a) (compl b))

/-! ## Tables as text -/

/-- The value of a hexadecimal digit. -/
def hexValue (c : Char) : Nat :=
  if '0' ≤ c && c ≤ '9' then c.toNat - '0'.toNat
  else if 'a' ≤ c && c ≤ 'f' then c.toNat - 'a'.toNat + 10
  else if 'A' ≤ c && c ≤ 'F' then c.toNat - 'A'.toNat + 10
  else 0

/-- What has been read of a table's text: the finished ranges, last first, the lower end of
the range at hand once its dash has been passed, and the number at hand if it has a digit. -/
structure Reading where
  done : Ranges := []
  low : Option Nat := none
  number : Option Nat := none

namespace Reading

/-- Closes the range at hand. -/
def close (r : Reading) : Reading :=
  match r.number, r.low with
  | some n, some low => { done := (low, n) :: r.done }
  | some n, none => { done := (n, n) :: r.done }
  | none, _ => { done := r.done }

/-- Takes one character of the text. -/
def step (r : Reading) (c : Char) : Reading :=
  if c = ' ' || c = '\n' then r.close
  else if c = '-' then { r with low := r.number, number := none }
  else { r with number := some (16 * r.number.getD 0 + hexValue c) }

end Reading

/-- The table that a text of hexadecimal ranges describes. -/
def ofText (text : String) : Ranges :=
  (text.foldl Reading.step {}).close.done.reverse

end Ranges

end Deprecation.Text
