/-
# TOML statements

A TOML text is a sequence of statements, one to a line.  A header opens a table, or adds one
to a list of tables; a pair puts a value under a key of the table that was opened last.

The statements of a text together stand for a table, unless one of them contradicts those
before it.
-/
import Deprecation.Toml.Tree

namespace Deprecation.Toml

/-- A key as it is written, in its parts between the points. -/
structure Key where
  /-- All parts but the last. -/
  front : List String
  last : String
deriving DecidableEq, Repr

/-- The parts of a key. -/
def Key.path (k : Key) : List String := k.front ++ [k.last]

/-- A line of a TOML text that says something. -/
inductive Statement where
  /-- Opens a table. -/
  | header (name : Key)
  /-- Adds a table to a list of tables. -/
  | element (name : Key)
  /-- Puts a value under a key. -/
  | pair (key : Key) (value : Datum)

/-- The tables that statements have made so far, and the path of the one that is open. -/
structure Document where
  current : List String
  fields : Fields

namespace Document

/-- The document without statements. -/
def empty : Document := ⟨[], []⟩

/-- Adds a statement. -/
def add (d : Document) : Statement → Option Document
  | .header k => (d.fields.openTable k.front k.last).map (⟨k.path, ·⟩)
  | .element k => (d.fields.openElement k.front k.last).map (⟨k.path, ·⟩)
  | .pair k value =>
    (d.fields.descend false d.current (Fields.putDotted k.front k.last value) .opened).map
      (⟨d.current, ·⟩)

end Document

/-- The table that statements stand for. -/
def datumOf (statements : List Statement) : Option Datum :=
  (statements.foldlM Document.add .empty).map fun d => .table (fieldsDatum d.fields)

end Deprecation.Toml
