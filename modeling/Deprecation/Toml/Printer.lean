/-
# Writing TOML

Statements are written one to a line, with an empty line before each header but the first.  A
list of two or more items is written with one item to a line and a comma after each.

An integer beyond 63 bits and its sign has no written form in TOML, nor has null.  Tables are
written by their headers, not as values.
-/
import Deprecation.Json.Printer
import Deprecation.Toml.Reader

namespace Deprecation.Toml

/-- The items of a list on lines of their own. -/
def itemLines (items : List (List Char)) : List Char :=
  items.flatMap fun item => "\n    ".toList ++ item ++ [',']

/-- A list of written items. -/
def listText : List (List Char) → List Char
  | [] => "[]".toList
  | [item] => '[' :: (item ++ [']'])
  | items => '[' :: (itemLines items ++ ['\n', ']'])

mutual

/-- A value as it is written. -/
def valueText : Datum → Option (List Char)
  | .bool b => some (if b then "true".toList else "false".toList)
  | .int n => (inRange n).map Json.integer
  | .real spelling => some spelling.toList
  | .text s => s.map fun s => quote s.toList
  | .list items => (itemTexts items).map listText
  | .null | .table _ => none

/-- Items as they are written. -/
def itemTexts : List Datum → Option (List (List Char))
  | [] => some []
  | d :: rest => do
    let first ← valueText d
    let others ← itemTexts rest
    some (first :: others)

end

/-- A part of a key as it is written. -/
def keyPartText (part : String) : List Char :=
  if part.toList ≠ [] ∧ part.toList.all isBare then part.toList
  else quoteAs part.toList .basic

/-- A key as it is written. -/
def keyText (k : Key) : List Char :=
  k.front.flatMap (fun part => keyPartText part ++ ['.']) ++ keyPartText k.last

namespace Statement

/-- A statement as it is written, on its line. -/
def text : Statement → Option (List Char)
  | header k => some ('[' :: (keyText k ++ [']', '\n']))
  | element k => some ('[' :: '[' :: (keyText k ++ [']', ']', '\n']))
  | pair k d => (valueText d).map fun v => keyText k ++ (" = ".toList ++ (v ++ ['\n']))

/-- Whether a statement is set off from those before it. -/
def isHeader : Statement → Bool
  | header _ | element _ => true
  | pair _ _ => false

end Statement

/-- The statements after the first. -/
def furtherText : List Statement → Option (List Char)
  | [] => some []
  | s :: rest => do
    let first ← s.text
    let others ← furtherText rest
    some ((if s.isHeader then ['\n'] else []) ++ (first ++ others))

/-- Statements as a TOML text. -/
def write : List Statement → Option String
  | [] => some ""
  | s :: rest => do
    let first ← s.text
    let others ← furtherText rest
    some (String.ofList (first ++ others))

end Deprecation.Toml
