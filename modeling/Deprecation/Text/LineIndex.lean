/-
# Lines by their places

A match is found at a place in bytes, and what is reported of it is the line of that place.  The
places at which lines start are listed once for a text: the first line starts with the text, and
each newline is followed by a start.  The line of a place is then looked up by bisection.
-/

namespace Deprecation.Text

/-- The places in bytes of UTF-8 at which the lines of a text start, in order. -/
structure LineIndex where
  starts : Array Nat
deriving Repr, Inhabited

namespace LineIndex

/-- The places right behind the newlines of a text whose first character is at a place. -/
def startsAfter (place : Nat) : List Char → List Nat
  | [] => []
  | c :: s =>
    let next := place + c.utf8Size
    if c = '\n' then next :: startsAfter next s else startsAfter next s

/-- The line starts of a text. -/
def ofChars (text : List Char) : LineIndex := ⟨(0 :: startsAfter 0 text).toArray⟩

/-- Looks for a number among increasing ones, from the index `low` up to before the index
`high`: on the left the index at which it stands, or else on the right the one at which it would
have to be put in. -/
def locate (numbers : Array Nat) (n low high : Nat) (h : high ≤ numbers.size) : Nat ⊕ Nat :=
  if hlow : low < high then
    let middle := low + (high - low) / 2
    have hmiddle : middle < high := by omega
    if numbers[middle] = n then .inl middle
    else if numbers[middle] < n then locate numbers n (middle + 1) high h
    else locate numbers n low middle (by omega)
  else .inr low
termination_by high - low

/-- The line of a place, counted from one. -/
def lineOf (lines : LineIndex) (place : Nat) : Nat :=
  match locate lines.starts place 0 lines.starts.size (Nat.le_refl _) with
  | .inl line => line + 1
  | .inr next => next

end LineIndex

end Deprecation.Text
