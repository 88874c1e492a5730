/-
# Writing JSON

A datum is laid out as a sequence of tokens, each with the blanks that stand before it.  The
tokens do not depend on the style; only the blanks do.  The compact style has none.  The
indented style starts a new line for each item and each field, two spaces deeper than the
list or table around it, and leaves an empty list or table on its line.
-/
import Deprecation.Json.Token

namespace Deprecation.Json

/-- How a JSON text is laid out. -/
inductive Style where
  /-- Without blanks. -/
  | compact
  /-- One item or field to a line. -/
  | indented
deriving DecidableEq, Repr

namespace Style

/-- What stands before an item, a field or a closing bracket at some depth. -/
def newLine : Style → Nat → List Char
  | compact, _ => []
  | indented, depth => '\n' :: List.replicate (2 * depth) ' '

/-- What stands between a colon and the value of the field. -/
def afterColon : Style → List Char
  | compact => []
  | indented => [' ']

end Style

/-- An integer as it is written. -/
def integer (n : Int) : List Char :=
  if n < 0 then '-' :: Nat.toDigits 10 n.natAbs else Nat.toDigits 10 n.natAbs

/-- A token and the blanks before it. -/
abbrev Piece := List Char × Token

mutual

/-- The layout of a datum: `lead` stands before its first token, and `depth` is the depth of
what encloses it. -/
def layout (style : Style) (depth : Nat) (lead : List Char) : Datum → List Piece
  | .null => [(lead, .null)]
  | .bool b => [(lead, .bool b)]
  | .int n => [(lead, .number (integer n))]
  | .real spelling => [(lead, .number spelling.toList)]
  | .text s => [(lead, .text s)]
  | .list [] => [(lead, .openList), ([], .closeList)]
  | .list (d :: rest) =>
    (lead, .openList) :: layout style (depth + 1) (style.newLine (depth + 1)) d
      ++ (layoutItems style (depth + 1) rest ++ [(style.newLine depth, .closeList)])
  | .table [] => [(lead, .openTable), ([], .closeTable)]
  | .table ((name, d) :: rest) =>
    (lead, .openTable) :: (style.newLine (depth + 1), .text name) :: ([], .colon)
      :: layout style (depth + 1) style.afterColon d
      ++ (layoutFields style (depth + 1) rest ++ [(style.newLine depth, .closeTable)])

/-- The layout of the items after the first. -/
def layoutItems (style : Style) (depth : Nat) : List Datum → List Piece
  | [] => []
  | d :: rest =>
    ([], .comma) :: layout style depth (style.newLine depth) d
      ++ layoutItems style depth rest

/-- The layout of the fields after the first. -/
def layoutFields (style : Style) (depth : Nat) :
    List (Option String × Datum) → List Piece
  | [] => []
  | (name, d) :: rest =>
    ([], .comma) :: (style.newLine depth, .text name) :: ([], .colon)
      :: layout style depth style.afterColon d
      ++ layoutFields style depth rest

end

/-- The characters of a layout. -/
def spell (pieces : List Piece) : List Char :=
  pieces.flatMap fun p => p.1 ++ p.2.spelled

/-- A datum as a JSON text in a given style. -/
def write (style : Style) (d : Datum) : String :=
  String.ofList (spell (layout style 0 [] d))

/-- A datum as a JSON text without blanks. -/
def compact (d : Datum) : String := write .compact d

/-- A datum as an indented JSON text. -/
def indented (d : Datum) : String := write .indented d

end Deprecation.Json
