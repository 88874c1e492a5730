/-
# Structured data

Rules, snapshots, catalogues, reports and the configuration are all written as structured
data: scalars, lists, and tables of named fields.  Two notations are in use, JSON and TOML;
both are read into the type of this file, and values are encoded into it before they are
printed.

A string of a JSON text may denote no text at all, because its escapes name half a surrogate
pair or its bytes are not UTF-8.  Such a string is harmless where it is skipped and an error
where a text is wanted, so it is kept as `none`.  Numbers other than integers of 64 bits are
wanted nowhere; of those only the spelling is kept.
-/

namespace Deprecation

/-- Structured data. -/
inductive Datum where
  /-- The absent value. -/
  | null
  /-- A truth value. -/
  | bool (b : Bool)
  /-- An integer that fits in 64 bits, signed or unsigned. -/
  | int (n : Int)
  /-- Any other number, as it is spelled. -/
  | real (spelling : String)
  /-- A string, or `none` when it denotes no text. -/
  | text (s : Option String)
  /-- A list. -/
  | list (items : List Datum)
  /-- A table of fields, in order; a field may be repeated. -/
  | table (fields : List (Option String × Datum))
deriving Inhabited

namespace Datum

/-- A string as a datum. -/
def str (s : String) : Datum := .text (some s)

/-- A natural number as a datum. -/
def nat (n : Nat) : Datum := .int n

/-- A table whose field names are texts. -/
def record (fields : List (String × Datum)) : Datum :=
  .table (fields.map fun f => (some f.1, f.2))

/-- An optional value, absent when it is `none`. -/
def option {α : Type} (encode : α → Datum) : Option α → Datum
  | some a => encode a
  | none => .null

/-- A field that is left out when its value is `none`. -/
def optionalField {α : Type} (name : String) (encode : α → Datum) :
    Option α → List (String × Datum)
  | some a => [(name, encode a)]
  | none => []

end Datum

end Deprecation
