/-
# Blank characters, trimming and lines

Release notes are read a line at a time, and tokens and version labels are trimmed at both
ends.  A *blank* is any character with the White_Space property, which has 25 members.
Texts are lists of characters here; the functions on `String` at the end of the file are
what the rest of the library calls.
-/

namespace Deprecation.Text

/-- A character with the White_Space property. -/
def isBlank (c : Char) : Bool :=
  let n := c.toNat
  (0x9 ≤ n && n ≤ 0xD) || n == 0x20 || n == 0x85 || n == 0xA0 || n == 0x1680
    || (0x2000 ≤ n && n ≤ 0x200A) || n == 0x2028 || n == 0x2029 || n == 0x202F
    || n == 0x205F || n == 0x3000

/-! ## Trimming -/

/-- The list without the blanks at its start. -/
def trimStart (s : List Char) : List Char :=
  s.dropWhile isBlank

/-- The list without the blanks at its end. -/
def trimEnd (s : List Char) : List Char :=
  (s.reverse.dropWhile isBlank).reverse

/-- The list without the blanks at either end. -/
def trim (s : List Char) : List Char :=
  trimEnd (trimStart s)

@[simp] theorem trim_nil : trim [] = [] := rfl

/-- The string without the blanks at either end. -/
def trimmed (s : String) : String :=
  String.ofList (trim s.toList)

@[simp] theorem toList_trimmed (s : String) : (trimmed s).toList = trim s.toList := by
  simp [trimmed]

/-! ## Lines -/

/-- A line without the carriage return that ends it, if there is one. -/
def dropReturn (line : List Char) : List Char :=
  match line.reverse with
  | '\r' :: rest => rest.reverse
  | _ => line

/-- Puts one more character in front of the pieces that follow it. -/
def consPiece (c : Char) (following : List (List Char)) : List (List Char) :=
  if c = '\n' then [] :: following
  else match following with
    | [] => [[c]]
    | first :: others => (c :: first) :: others

/-- The pieces between newlines, one more than there are newlines. -/
def pieces (s : List Char) : List (List Char) :=
  s.foldr consPiece [[]]

@[simp] theorem pieces_nil : pieces [] = [[]] := rfl

theorem pieces_cons (c : Char) (s : List Char) :
    pieces (c :: s) = consPiece c (pieces s) := rfl

@[simp] theorem pieces_newline (s : List Char) : pieces ('\n' :: s) = [] :: pieces s := by
  simp [pieces_cons, consPiece]

theorem pieces_ne_nil (s : List Char) : pieces s ≠ [] := by
  cases s with
  | nil => simp
  | cons c rest =>
    simp only [pieces_cons, consPiece]
    split
    · simp
    · split <;> simp

/-- The lines of a text.  A line ends with a newline or with the text.  A carriage return
before the newline belongs to the ending, one before the end of the text to the line; and a
newline that ends the text begins no further line. -/
def lines (s : List Char) : List (List Char) :=
  let all := pieces s
  let last := all.getLast?.getD []
  all.dropLast.map dropReturn ++ if last = [] then [] else [last]

@[simp] theorem lines_nil : lines [] = [] := rfl

end Deprecation.Text
