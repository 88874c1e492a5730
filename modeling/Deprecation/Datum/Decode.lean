/-
# Decoding structured data

A type of the library is decoded from a datum by the same few rules everywhere.

* A structure is a table of named fields.  Fields of other names are skipped, and a field
  that occurs twice is an error.  A structure may also be given as a list of its fields in
  order; a list may stop early, but only before fields that have a default.  What a list
  has beyond the fields is an error in JSON and skipped in TOML.
* An optional field may be missing from a table, or be null.
* A value of an enumeration is its name, or a table whose only field is that name, with
  nothing in it.  What counts as nothing depends on the notation: null in JSON, an empty
  list or table in TOML.
* A structure with a tag chooses by the tag which fields it has.  The whole of it is read
  before the choice, so all its strings must denote texts, its numbers must be finite, and
  its depth is bounded.

Decoding fails without saying why.
-/
import Deprecation.Datum.Spelling

namespace Deprecation

/-- A notation for structured data. -/
inductive Format where
  | json
  | toml
deriving DecidableEq, Repr

namespace Datum

/-! ## Scalars and lists -/

/-- A text. -/
def asText : Datum → Option String
  | text s => s
  | _ => none

/-- A truth value. -/
def asBool : Datum → Option Bool
  | bool b => some b
  | _ => none

/-- A natural number below a bound. -/
def asNatBelow (bound : Nat) : Datum → Option Nat
  | int n => if 0 ≤ n ∧ n < bound then some n.toNat else none
  | _ => none

/-- A list, each item of which decodes. -/
def asList {α : Type} (decode : Datum → Option α) : Datum → Option (List α)
  | list items => items.mapM decode
  | _ => none

/-- An optional value, for which null stands when it is absent. -/
def asOption {α : Type} (decode : Datum → Option α) : Datum → Option (Option α)
  | null => some none
  | d => (decode d).map some

/-! ## Enumerations -/

/-- Whether a datum says nothing about a value beside its name. -/
def isNothing : Format → Datum → Bool
  | .json, null => true
  | .toml, list [] => true
  | .toml, table [] => true
  | _, _ => false

/-- The name of a value of an enumeration. -/
def asName (format : Format) : Datum → Option String
  | text s => s
  | table [(name, d)] => if isNothing format d then name else none
  | _ => none

/-- A value of an enumeration, found by its name among all values. -/
def asOneOf {α : Type} (all : List α) (nameOf : α → String) (format : Format) (d : Datum) :
    Option α := do
  let name ← asName format d
  all.find? fun a => nameOf a == name

/-! ## Structures -/

/-- The fields of a structure as they were given: for each expected name, the datum given
for it; and whether they were given by position rather than by name. -/
structure Given where
  byPosition : Bool
  fields : List (Option Datum)

/-- The first datum given for a name. -/
def lookup (name : String) : List (Option String × Datum) → Option Datum
  | [] => none
  | (n, d) :: rest => if n = some name then some d else lookup name rest

/-- How often a name occurs. -/
def occurrences (name : String) (fields : List (Option String × Datum)) : Nat :=
  (fields.filter fun f => f.1 = some name).length

/-- The fields of a structure with these field names. -/
def given (names : List String) (format : Format := .json) : Datum → Option Given
  | table fields =>
    if fields.any (fun f => f.1.isNone)
        || names.any (fun name => 1 < occurrences name fields) then none
    else some ⟨false, names.map fun name => lookup name fields⟩
  | list items =>
    if names.length < items.length ∧ format = .json then none
    else some ⟨true, items.map some ++ List.replicate (names.length - items.length) none⟩
  | _ => none

namespace Given

/-- The field at a position among the expected ones. -/
def at? (g : Given) (i : Nat) : Option Datum :=
  (g.fields[i]?).join

/-- A field that must be there. -/
def required {α : Type} (g : Given) (i : Nat) (decode : Datum → Option α) : Option α :=
  g.at? i >>= decode

/-- An optional field without a default: it may be missing only by name. -/
def optional {α : Type} (g : Given) (i : Nat) (decode : Datum → Option α) :
    Option (Option α) :=
  match g.at? i with
  | some d => asOption decode d
  | none => if g.byPosition then none else some none

/-- A field that has a default. -/
def withDefault {α : Type} (g : Given) (i : Nat) (default : α) (decode : Datum → Option α) :
    Option α :=
  match g.at? i with
  | some d => decode d
  | none => some default

end Given

/-! ## Structures with a tag -/

mutual

/-- How deep lists and tables are nested in a datum. -/
def depth : Datum → Nat
  | list items => depthItems items + 1
  | table fields => depthFields fields + 1
  | _ => 0

/-- The greatest depth of a list of data. -/
def depthItems : List Datum → Nat
  | [] => 0
  | d :: rest => max (depth d) (depthItems rest)

/-- The greatest depth of the values of fields. -/
def depthFields : List (Option String × Datum) → Nat
  | [] => 0
  | (_, d) :: rest => max (depth d) (depthFields rest)

end

mutual

/-- Whether all strings of a datum denote texts and all its numbers are finite. -/
def isSound : Datum → Bool
  | text s => s.isSome
  | real spelling => isQuicklyFinite spelling
  | list items => areSound items
  | table fields => fieldsAreSound fields
  | _ => true

/-- Whether a list of data is sound. -/
def areSound : List Datum → Bool
  | [] => true
  | d :: rest => isSound d && areSound rest

/-- Whether fields have names and sound values. -/
def fieldsAreSound : List (Option String × Datum) → Bool
  | [] => true
  | (name, d) :: rest => name.isSome && isSound d && fieldsAreSound rest

end

/-- How deep a datum may be nested where all of it is read. -/
def maxDepth : Nat := 127

/-- The tag of a structure and what is left of it without the tag.  The structure itself
stands at some depth, which counts the lists and tables around it. -/
def tagged (tag : String) (around : Nat) (d : Datum) : Option (String × Datum) :=
  if !isSound d || maxDepth < around + depth d then none
  else match d with
    | table fields =>
      if 1 < occurrences tag fields then none
      else do
        let name ← lookup tag fields >>= asText
        pure (name, table (fields.filter fun f => f.1 ≠ some tag))
    | list (first :: rest) => do
      let name ← asText first
      pure (name, list rest)
    | _ => none

end Datum

end Deprecation
