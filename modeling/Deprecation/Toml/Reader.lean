/-
# Reading TOML

The text is read from the left, a statement at a time.  Lists may run over several lines and
hold comments; everything else stays on its line.  Lists and inline tables are nested less
than 80 deep, and a key has less than 80 parts.
-/
import Deprecation.Toml.Quoted
import Deprecation.Toml.Scalar
import Deprecation.Toml.Statement

namespace Deprecation.Toml

/-! ## Blanks and comments -/

/-- The text without spaces and tabs at its start. -/
def dropSpaces (s : List Char) : List Char := s.dropWhile isSpace

/-- The text without a comment at its start, if there is one. -/
def dropComment : List Char → List Char
  | '#' :: rest => rest.dropWhile isPlain
  | s => s

/-- The text after the end of a line, with spaces and a comment before it.  The text may end
the line. -/
def endLine (s : List Char) : Option (List Char) :=
  match dropComment (dropSpaces s) with
  | [] => some []
  | rest => newline? rest

/-- The text without the spaces, comments and line ends at its start.  There are at most so
many of them. -/
def dropLines : Nat → List Char → List Char
  | 0, s => s
  | n + 1, s =>
    let s := dropSpaces s
    match newline? (dropComment s) with
    | some rest => dropLines n rest
    | none => s

/-! ## Keys -/

/-- A character of a key without quotes. -/
def isBare (c : Char) : Bool := c.isAlphanum || c = '_' || c = '-'

/-- Reads one part of a key. -/
def keyPart (s : List Char) : Option (List Char × List Char) :=
  match s with
  | '"' :: _ | '\'' :: _ => quotedLine s
  | _ =>
    let part := s.takeWhile isBare
    if part.isEmpty then none else some (part, s.dropWhile isBare)

/-- The nesting that is not reached. -/
def maxNesting : Nat := 80

/-- Reads a key of at most so many parts, with spaces around the parts. -/
def keyUpTo : Nat → List Char → Option (Key × List Char)
  | 0, _ => none
  | n + 1, s => do
    let (part, rest) ← keyPart (dropSpaces s)
    match dropSpaces rest with
    | '.' :: rest =>
      let (k, rest) ← keyUpTo n rest
      some (⟨String.ofList part :: k.front, k.last⟩, rest)
    | rest => some (⟨[], String.ofList part⟩, rest)

/-- Reads a key. -/
def key (s : List Char) : Option (Key × List Char) := keyUpTo (maxNesting - 1) s

/-! ## Values -/

/-- Something that reads from the start of a text. -/
abbrev Read (α : Type) := List Char → Option (α × List Char)

/-- Reads a key, an equals sign and a value. -/
def pairWith (value : Read Datum) : Read (Key × Datum) := fun s => do
  let (k, rest) ← key s
  match rest with
  | '=' :: rest =>
    let (d, rest) ← value (dropSpaces rest)
    some ((k, d), rest)
  | _ => none

/-- Reads the items of a list after the opening bracket, at most so many. -/
def items (value : Read Datum) : Nat → Read (List Datum)
  | 0, _ => none
  | n + 1, s =>
    match dropLines s.length s with
    | ']' :: rest => some ([], rest)
    | s => do
      let (d, rest) ← value s
      match dropLines rest.length rest with
      | ',' :: rest =>
        let (others, rest) ← items value n rest
        some (d :: others, rest)
      | ']' :: rest => some ([d], rest)
      | _ => none

/-- Reads the pairs of an inline table after the opening brace or a comma, at most so
many. -/
def pairs (value : Read Datum) : Nat → Read (List (Key × Datum))
  | 0, _ => none
  | n + 1, s => do
    let (p, rest) ← pairWith value s
    match dropSpaces rest with
    | ',' :: rest =>
      let (others, rest) ← pairs value n rest
      some (p :: others, rest)
    | '\x7d' :: rest => some ([p], rest)
    | _ => none

/-- The inline table with some pairs. -/
def inlineTable (ps : List (Key × Datum)) : Option Datum :=
  (ps.foldlM (fun fields p => Fields.putDotted p.1.front p.1.last p.2 .opened fields) []).map
    fun fields => .table (fieldsDatum fields)

/-- Reads a value in which lists and inline tables are nested at most so deep. -/
def value : Nat → Read Datum
  | nesting, s =>
    match s with
    | '"' :: _ | '\'' :: _ => (quoted s).map fun (t, rest) => (.str (String.ofList t), rest)
    | '[' :: rest =>
      match nesting with
      | 0 => none
      | n + 1 => (items (value n) (rest.length + 1) rest).map fun (l, rest) => (.list l, rest)
    | '\x7b' :: rest =>
      match nesting with
      | 0 => none
      | n + 1 =>
        match dropSpaces rest with
        | '\x7d' :: rest => some (.table [], rest)
        | rest => do
          let (ps, rest) ← pairs (value n) (rest.length + 1) rest
          let d ← inlineTable ps
          some (d, rest)
    | _ => readScalar s

/-! ## Statements -/

/-- Reads a header after its first bracket. -/
def header : Read Statement
  | '[' :: rest => do
    match ← key rest with
    | (k, ']' :: ']' :: rest) => some (.element k, rest)
    | _ => none
  | s => do
    match ← key s with
    | (k, ']' :: rest) => some (.header k, rest)
    | _ => none

/-- Reads a statement. -/
def statement : Read Statement
  | '[' :: rest => header rest
  | s => (pairWith (value (maxNesting - 1)) s).map fun ((k, d), rest) => (.pair k d, rest)

/-- Reads the statements of a text, on at most so many lines. -/
def statementsUpTo : Nat → List Char → Option (List Statement)
  | n, s =>
    match dropLines s.length s with
    | [] => some []
    | '#' :: rest => if rest.all isPlain then some [] else none
    | s =>
      match n with
      | 0 => none
      | n + 1 => do
        let (st, rest) ← statement s
        let others ← statementsUpTo n (← endLine rest)
        some (st :: others)

/-- The text without the mark that may stand at its start to tell the byte order. -/
def dropMark : List Char → List Char
  | '\uFEFF' :: rest => rest
  | s => s

/-- The statements of a text. -/
def statements (s : List Char) : Option (List Statement) :=
  statementsUpTo s.length (dropMark s)

/-- Reads a TOML text. -/
def ofString (text : String) : Option Datum :=
  statements text.toList >>= datumOf

end Deprecation.Toml
