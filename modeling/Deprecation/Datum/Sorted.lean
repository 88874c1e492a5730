/-
# Data with sorted fields

The same data with the fields of every table in the order of their names.
-/
import Deprecation.Datum

namespace Deprecation.Datum

/-- Puts a field into a list in the order of names. -/
def insertField (f : Option String × Datum) :
    List (Option String × Datum) → List (Option String × Datum)
  | [] => [f]
  | g :: rest => if f.1.getD "" ≤ g.1.getD "" then f :: g :: rest else g :: insertField f rest

mutual

/-- The datum with sorted fields. -/
def sorted : Datum → Datum
  | list items => list (sortedItems items)
  | table fields => table (sortedFields fields)
  | null => null
  | bool b => bool b
  | int n => int n
  | real spelling => real spelling
  | text s => text s

/-- The items of a list with sorted fields. -/
def sortedItems : List Datum → List Datum
  | [] => []
  | d :: rest => sorted d :: sortedItems rest

/-- Sorted fields with sorted values. -/
def sortedFields : List (Option String × Datum) → List (Option String × Datum)
  | [] => []
  | (name, d) :: rest => insertField (name, sorted d) (sortedFields rest)

end

end Deprecation.Datum
