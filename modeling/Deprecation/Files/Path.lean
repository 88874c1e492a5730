/-
# Paths

A path is a text of names between slashes.  Empty names and the name `.` are skipped, except
that a relative path may begin with `.`; the name `..` is a component like any other, since
what it leads to depends on the files.

The functions of this file work on the text alone.
-/

namespace Deprecation.Path

/-! ## Components -/

/-- The pieces between slashes, one more than there are slashes. -/
def pieces (s : List Char) : List (List Char) :=
  s.foldr (fun c following =>
    if c = '/' then [] :: following
    else match following with
      | [] => [[c]]
      | first :: others => (c :: first) :: others) [[]]

/-- Pieces with slashes between them. -/
def joined : List (List Char) → List Char
  | [] => []
  | [p] => p
  | p :: rest => p ++ '/' :: joined rest

/-- A piece that is skipped. -/
def isSkipped (p : List Char) : Bool := p = [] || p = ['.']

/-- Where a path starts, and the pieces that follow: at the root, at the name `.`, or at its
first piece. -/
def split (s : List Char) : List Char × List (List Char) :=
  match s with
  | '/' :: rest => (['/'], pieces rest)
  | ['.'] => (['.'], [])
  | '.' :: '/' :: rest => (['.'], pieces ('/' :: rest))
  | _ => ([], pieces s)

/-- The names of a path and its skipped pieces, from the end, without the skipped pieces at
the very end. -/
def backwards (ps : List (List Char)) : List (List Char) := ps.reverse.dropWhile isSkipped

/-- Whether a path starts at the root. -/
def isAbsolute (p : String) : Bool := p.toList.head? = some '/'

/-- The last name of a path, unless the path ends with `..` or has no name. -/
def fileName (p : String) : Option String :=
  match backwards (split p.toList).2 with
  | name :: _ => if name = ['.', '.'] then none else some (String.ofList name)
  | [] => none

/-- The path without its last component, unless it has none. -/
def parent (p : String) : Option String :=
  let (start, ps) := split p.toList
  match backwards ps with
  | _ :: before => some (String.ofList (start ++ joined (before.dropWhile isSkipped).reverse))
  | [] => if start = ['.'] then some "" else none

/-! ## Building paths -/

/-- The place that a path names when it is looked up from another one. -/
def join (base p : String) : String :=
  if isAbsolute p then p
  else if base = "" ∨ base.toList.getLast? = some '/' then base ++ p
  else base ++ "/" ++ p

/-- The path with another last name. -/
def withFileName (p name : String) : String :=
  match fileName p with
  | some _ => join ((parent p).getD "") name
  | none => join p name

/-! ## Parts of the last name -/

/-- A name before and after its last dot, unless the dot is missing or comes first. -/
def splitName (name : List Char) : Option (List Char × List Char) :=
  let after := name.reverse.takeWhile (· ≠ '.')
  match name.reverse.dropWhile (· ≠ '.') with
  | _ :: c :: before => some ((c :: before).reverse, after.reverse)
  | _ => none

/-- What follows the last dot of the last name. -/
def extension (p : String) : Option String := do
  let (_, after) ← splitName (← fileName p).toList
  some (String.ofList after)

/-- The last name without its extension. -/
def stem (p : String) : Option String := do
  let name ← fileName p
  match splitName name.toList with
  | some (before, _) => some (String.ofList before)
  | none => some name

end Deprecation.Path
