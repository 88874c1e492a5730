/-
# The tables of a TOML text

A TOML text names its tables by paths, and the same table may be met several times: as the
table that a header opens, on the way to another table, or as the front of a dotted key.  The
tree of this file remembers how each table came about, because that decides what may still be
done to it.

* A table with a header of its own is not opened again, and no dotted key leads into it.
* A table that was only met on the way to another one may still be opened once.
* A table that dotted keys have made is not opened by a header.

Values, inline tables among them, are closed: no path leads through them.
-/
import Deprecation.Datum

namespace Deprecation.Toml

/-- How a table came about. -/
inductive TableKind where
  /-- By a header, or as an element of a list of tables. -/
  | opened
  /-- On the way to another table. -/
  | implied
  /-- As the front of a dotted key. -/
  | dotted
deriving DecidableEq, Repr

/-- What stands under a key. -/
inductive Node where
  /-- A value. -/
  | closed (d : Datum)
  /-- A table. -/
  | table (kind : TableKind) (fields : List (String × Node))
  /-- The tables of a list whose elements have headers, last first. -/
  | tables (elements : List (List (String × Node)))

/-- Keys with what stands under them, in order. -/
abbrev Fields := List (String × Node)

namespace Fields

/-- Changes what stands under a key. -/
def alter (key : String) (f : Option Node → Option Node) : Fields → Option Fields
  | [] => (f none).map fun n => [(key, n)]
  | (k, n) :: rest =>
    if k = key then (f (some n)).map fun n => (k, n) :: rest
    else (alter key f rest).map ((k, n) :: ·)

/-- Puts a node under a key that is free. -/
def put (key : String) (n : Node) : Fields → Option Fields :=
  alter key fun
    | none => some n
    | some _ => none

/-- Changes the table at the end of a path.  Tables that are missing on the way are made, as
implied ones, or as dotted ones if the path is the front of a dotted key.  Of a list of
tables the path takes the last one. -/
def descend (isDotted : Bool) (path : List String)
    (f : TableKind → Fields → Option Fields) (kind : TableKind) (fields : Fields) :
    Option Fields :=
  match path with
  | [] => f kind fields
  | key :: rest =>
    alter key (fun
      | none =>
        let kind := if isDotted then .dotted else .implied
        (descend isDotted rest f kind []).map (.table kind)
      | some (.table kind fields) =>
        if isDotted ∧ kind = .opened then none
        else (descend isDotted rest f kind fields).map (.table kind)
      | some (.tables (last :: before)) =>
        (descend isDotted rest f .opened last).map fun last => .tables (last :: before)
      | some _ => none) fields

/-- Puts a value under a dotted key.  What the front of the key leads to must be a table that
dotted keys have made. -/
def putDotted (front : List String) (key : String) (d : Datum) (kind : TableKind)
    (fields : Fields) : Option Fields :=
  descend true front
    (fun kind fields =>
      if kind = .dotted ∨ front = [] then put key (.closed d) fields else none)
    kind fields

/-- Opens the table that a header names. -/
def openTable (front : List String) (key : String) (fields : Fields) : Option Fields :=
  descend false front
    (fun _ => alter key fun
      | none => some (.table .opened [])
      | some (.table .implied fields) => some (.table .opened fields)
      | some _ => none)
    .opened fields

/-- Adds a table to the list of tables that a header names. -/
def openElement (front : List String) (key : String) (fields : Fields) : Option Fields :=
  descend false front
    (fun _ => alter key fun
      | none => some (.tables [[]])
      | some (.tables elements) => some (.tables ([] :: elements))
      | some _ => none)
    .opened fields

end Fields

mutual

/-- The value that a node stands for. -/
def Node.datum : Node → Datum
  | .closed d => d
  | .table _ fields => .table (fieldsDatum fields)
  | .tables elements => .list (elementsDatum elements).reverse

/-- The fields of a table, with their values. -/
def fieldsDatum : List (String × Node) → List (Option String × Datum)
  | [] => []
  | (key, n) :: rest => (some key, n.datum) :: fieldsDatum rest

/-- The tables of a list. -/
def elementsDatum : List (List (String × Node)) → List Datum
  | [] => []
  | fields :: rest => .table (fieldsDatum fields) :: elementsDatum rest

end

end Deprecation.Toml
