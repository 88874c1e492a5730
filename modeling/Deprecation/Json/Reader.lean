/-
# Reading JSON

The tokens of a JSON text are put together by a machine with a stack.  The stack holds the
lists and tables that have been opened and not yet closed; the state says which tokens may
come next.  A value that is complete is delivered to the list or table on top of the stack,
or is the result when the stack is empty.
-/
import Deprecation.Json.Token

namespace Deprecation.Json

/-- A list or table that waits for a value; its parts so far, last first. -/
inductive Frame where
  /-- A list that waits for an item. -/
  | list (items : List Datum)
  /-- A table that waits for the value of a field. -/
  | table (fields : List (Option String × Datum)) (name : Option String)

/-- What may come next. -/
inductive State where
  /-- A value. -/
  | value (stack : List Frame)
  /-- The first item of a list, or its end. -/
  | firstItem (stack : List Frame)
  /-- A comma, or the end of the list with these items. -/
  | afterItem (items : List Datum) (stack : List Frame)
  /-- The first field of a table, or its end. -/
  | firstField (stack : List Frame)
  /-- A field of the table with these fields. -/
  | field (fields : List (Option String × Datum)) (stack : List Frame)
  /-- The colon after a field's name. -/
  | colon (fields : List (Option String × Datum)) (name : Option String) (stack : List Frame)
  /-- A comma, or the end of the table with these fields. -/
  | afterField (fields : List (Option String × Datum)) (stack : List Frame)
  /-- Nothing. -/
  | done (d : Datum)
  /-- Nothing that could make the text sound. -/
  | failed

namespace State

/-- Hands a complete value to the top of the stack. -/
def deliver (d : Datum) : List Frame → State
  | [] => done d
  | .list items :: stack => afterItem (d :: items) stack
  | .table fields name :: stack => afterField ((name, d) :: fields) stack

end State

/-- The datum that a number stands for: an integer if it is spelled as one and fits in 64
bits.  Negative zero is no integer. -/
def numberOf (spelling : List Char) : Datum :=
  match spelling with
  | '-' :: digits =>
    if digits.all Char.isDigit then
      let n := Nat.ofDigitChars 10 digits 0
      if 0 < n ∧ n ≤ Nat.pow 2 63 then .int (-(n : Int)) else .real (String.ofList spelling)
    else .real (String.ofList spelling)
  | digits =>
    if digits.all Char.isDigit then
      let n := Nat.ofDigitChars 10 digits 0
      if n < Nat.pow 2 64 then .int n else .real (String.ofList spelling)
    else .real (String.ofList spelling)

namespace State

/-- Takes the first token of a value. -/
def startValue (stack : List Frame) : Token → State
  | .null => deliver .null stack
  | .bool b => deliver (.bool b) stack
  | .text s => deliver (.text s) stack
  | .number spelling => deliver (numberOf spelling) stack
  | .openList => firstItem stack
  | .openTable => firstField stack
  | .closeList | .closeTable | .colon | .comma => failed

/-- Takes one token. -/
def step : State → Token → State
  | value stack, t => startValue stack t
  | firstItem stack, .closeList => deliver (.list []) stack
  | firstItem stack, t => startValue (.list [] :: stack) t
  | afterItem items stack, .comma => value (.list items :: stack)
  | afterItem items stack, .closeList => deliver (.list items.reverse) stack
  | firstField stack, .closeTable => deliver (.table []) stack
  | firstField stack, .text name => colon [] name stack
  | field fields stack, .text name => colon fields name stack
  | colon fields name stack, .colon => value (.table fields name :: stack)
  | afterField fields stack, .comma => field fields stack
  | afterField fields stack, .closeTable => deliver (.table fields.reverse) stack
  | _, _ => failed

/-- The value that has been read. -/
def result : State → Option Datum
  | done d => some d
  | _ => none

end State

/-- The value whose tokens these are. -/
def assemble (ts : List Token) : Option Datum :=
  (ts.foldl State.step (.value [])).result

/-- Reads a JSON text, given as characters and stray bytes. -/
def read (s : List (Option Char)) : Option Datum :=
  tokens s >>= assemble

/-- Reads a JSON text. -/
def ofString (s : String) : Option Datum :=
  read (s.toList.map some)

end Deprecation.Json
