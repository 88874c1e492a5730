/-
# Strings in TOML

A string is written in one of four ways: between one or three quotation marks, where a
backslash begins an escape, or between one or three apostrophes, where it does not.  Only
between three marks may a string run over several lines; a newline right after the opening
marks is then not part of it.

The writer takes the plainest of these ways that the string allows.
-/
import Deprecation.Json.Token

namespace Deprecation.Toml

/-! ## Characters -/

/-- A character that stands for itself in a comment and between apostrophes, where an
apostrophe is left aside: a tab, or any character but the control characters of ASCII. -/
def isPlain (c : Char) : Bool :=
  c = '\t' || (0x20 ≤ c.toNat && c.toNat ≠ 0x7F)

/-- A space or a tab. -/
def isSpace (c : Char) : Bool := c = ' ' || c = '\t'

/-- The text without the newline at its start, if there is one.  A newline may have a
carriage return before it. -/
def newline? : List Char → Option (List Char)
  | '\n' :: rest => some rest
  | '\r' :: '\n' :: rest => some rest
  | _ => none

theorem length_newline? {s rest : List Char} (h : newline? s = some rest) :
    rest.length < s.length := by
  unfold newline? at h
  split at h
  · cases h
    simp only [List.length_cons, Nat.lt_succ_self]
  · cases h
    simp only [List.length_cons]
    omega
  · cases h

/-- The text without spaces, tabs and newlines at its start. -/
def dropGap : List Char → List Char
  | '\n' :: rest => dropGap rest
  | '\r' :: '\n' :: rest => dropGap rest
  | c :: rest => if isSpace c then dropGap rest else c :: rest
  | [] => []

theorem length_dropGap (s : List Char) : (dropGap s).length ≤ s.length := by
  fun_induction dropGap s <;> simp_all <;> omega

/-! ## Escapes -/

/-- The value of a hexadecimal digit. -/
def hexValue (c : Char) : Option Nat :=
  if c.isDigit then some (c.toNat - 48)
  else if 'a' ≤ c ∧ c ≤ 'f' then some (c.toNat - 87)
  else if 'A' ≤ c ∧ c ≤ 'F' then some (c.toNat - 55)
  else none

/-- The number that hexadecimal digits spell. -/
def hexNumber (digits : List Char) : Option Nat :=
  digits.foldlM (fun n c => (hexValue c).map (16 * n + ·)) 0

/-- The character with a code point, if there is one. -/
def charOfCode (n : Nat) : Option Char :=
  if h : n.isValidChar then some (Char.ofNatAux n h) else none

/-- The character that an escape stands for, after the backslash. -/
def escape : List Char → Option (Char × List Char)
  | 'b' :: rest => some ('\x08', rest)
  | 't' :: rest => some ('\t', rest)
  | 'n' :: rest => some ('\n', rest)
  | 'f' :: rest => some ('\x0c', rest)
  | 'r' :: rest => some ('\r', rest)
  | '"' :: rest => some ('"', rest)
  | '\\' :: rest => some ('\\', rest)
  | 'u' :: a :: b :: c :: d :: rest =>
    (hexNumber [a, b, c, d] >>= charOfCode).map (·, rest)
  | 'U' :: a :: b :: c :: d :: e :: f :: g :: h :: rest =>
    (hexNumber [a, b, c, d, e, f, g, h] >>= charOfCode).map (·, rest)
  | _ => none

theorem length_escape {s rest : List Char} {c : Char} (h : escape s = some (c, rest)) :
    rest.length < s.length := by
  unfold escape at h
  split at h
  case h_8 | h_9 =>
    obtain ⟨_, _, h⟩ := Option.map_eq_some_iff.mp h
    cases h
    simp
    omega
  case h_10 => cases h
  all_goals cases h; simp

/-! ## Reading -/

/-- Reads a string between single quotation marks, after the first.  `before` is what has
been read of it, last character first. -/
def basic (before : List Char) (s : List Char) : Option (List Char × List Char) :=
  match s with
  | [] => none
  | c :: rest =>
    if c = '"' then some (before.reverse, rest)
    else if c = '\\' then
      match _h : escape rest with
      | some (e, rest') => basic (e :: before) rest'
      | none => none
    else if isPlain c then basic (c :: before) rest
    else none
termination_by s.length
decreasing_by
  · have := length_escape ‹_›; simp; omega
  · simp

/-- Reads a string between single apostrophes, after the first. -/
def literal (before : List Char) : List Char → Option (List Char × List Char)
  | [] => none
  | c :: rest =>
    if c = '\'' then some (before.reverse, rest)
    else if isPlain c then literal (c :: before) rest
    else none

/-- The end of a string between three marks: the marks, with up to two more before them that
belong to the string. -/
def tripleEnd (mark : Char) : List Char → Option (List Char × List Char)
  | a :: b :: c :: rest =>
    if a = mark ∧ b = mark ∧ c = mark then
      match rest with
      | d :: e :: rest' =>
        if d = mark ∧ e = mark then some ([mark, mark], rest')
        else if d = mark then some ([mark], e :: rest')
        else some ([], rest)
      | [d] => if d = mark then some ([mark], []) else some ([], rest)
      | [] => some ([], [])
    else none
  | _ => none

/-- The text after a backslash at the end of a line, up to where the string goes on: the
newline is left out, and so are all blanks that follow. -/
def lineJoin (s : List Char) : Option (List Char) :=
  (newline? (s.dropWhile isSpace)).map dropGap

theorem length_lineJoin {s rest : List Char} (h : lineJoin s = some rest) :
    rest.length < s.length := by
  obtain ⟨t, ht, rfl⟩ := Option.map_eq_some_iff.mp h
  have h1 := length_newline? ht
  have h2 := length_dropGap t
  have h3 := (List.dropWhile_suffix isSpace (l := s)).length_le
  omega

/-- Reads a string between three quotation marks, after the first three and the newline
that may follow them. -/
def multiBasic (before : List Char) (s : List Char) : Option (List Char × List Char) :=
  match tripleEnd '"' s with
  | some (more, rest) => some (before.reverse ++ more, rest)
  | none =>
    match _h : newline? s with
    | some rest => multiBasic ('\n' :: before) rest
    | none =>
      match s with
      | [] => none
      | c :: rest =>
        if c = '\\' then
          match _h : escape rest with
          | some (e, rest') => multiBasic (e :: before) rest'
          | none =>
            match _h : lineJoin rest with
            | some rest' => multiBasic before rest'
            | none => none
        else if isPlain c then multiBasic (c :: before) rest
        else none
termination_by s.length
decreasing_by
  · have := length_newline? ‹_›; omega
  · have := length_escape ‹_›; simp; omega
  · have := length_lineJoin ‹_›; simp; omega
  · simp

/-- Reads a string between three apostrophes, after the first three and the newline that may
follow them. -/
def multiLiteral (before : List Char) (s : List Char) : Option (List Char × List Char) :=
  match tripleEnd '\'' s with
  | some (more, rest) => some (before.reverse ++ more, rest)
  | none =>
    match _h : newline? s with
    | some rest => multiLiteral ('\n' :: before) rest
    | none =>
      match s with
      | [] => none
      | c :: rest => if isPlain c then multiLiteral (c :: before) rest else none
termination_by s.length
decreasing_by
  · have := length_newline? ‹_›; omega
  · simp

/-- The text without one newline at its start, if there is one. -/
def dropNewline (s : List Char) : List Char := (newline? s).getD s

/-- Reads a string on one line. -/
def quotedLine : List Char → Option (List Char × List Char)
  | '"' :: rest => basic [] rest
  | '\'' :: rest => literal [] rest
  | _ => none

/-- Reads a string. -/
def quoted : List Char → Option (List Char × List Char)
  | '"' :: '"' :: '"' :: rest => multiBasic [] (dropNewline rest)
  | '\'' :: '\'' :: '\'' :: rest => multiLiteral [] (dropNewline rest)
  | s => quotedLine s

/-! ## Writing -/

/-- The four ways of writing a string. -/
inductive Quoting where
  | basic
  | literal
  | multiBasic
  | multiLiteral
deriving DecidableEq, Repr

/-- The longest run of a character in a text. -/
def longestRun (c : Char) (s : List Char) : Nat :=
  (s.foldl (fun (best, now) x => if x = c then (max best (now + 1), now + 1) else (best, 0))
    (0, 0)).1

/-- A control character that only an escape can stand for. -/
def needsEscape (c : Char) : Bool :=
  c ≠ '\t' && c ≠ '\n' && (c.toNat < 0x20 || c.toNat = 0x7F)

/-- The way in which a string is written.  Escapes are avoided if possible, then several
lines, then apostrophes. -/
def quotingOf (s : List Char) : Quoting :=
  let escapes := s.any needsEscape
  let backslash := s.contains '\\'
  let newline := s.contains '\n'
  let marks := longestRun '"' s
  let apostrophes := longestRun '\'' s
  if !escapes && !backslash && marks = 0 && !newline then .basic
  else if !escapes && apostrophes = 0 && !newline then .literal
  else if !escapes && !backslash && marks ≤ 2 then .multiBasic
  else if !escapes && apostrophes ≤ 2 then .multiLiteral
  else if newline then .multiBasic
  else .basic

/-- A hexadecimal digit, in capital letters. -/
def capitalHexDigit (n : Nat) : Char :=
  if n < 10 then Char.ofNat (n + 48) else Char.ofNat (n + 55)

/-- A character between quotation marks. -/
def written (c : Char) : List Char :=
  if c = '"' then ['\\', '"']
  else if c = '\\' then ['\\', '\\']
  else if c = '\x08' then ['\\', 'b']
  else if c = '\t' then ['\\', 't']
  else if c = '\n' then ['\\', 'n']
  else if c = '\x0c' then ['\\', 'f']
  else if c = '\r' then ['\\', 'r']
  else if c.toNat < 0x20 ∨ c.toNat = 0x7F then
    ['\\', 'u', '0', '0', capitalHexDigit (c.toNat / 16), capitalHexDigit (c.toNat % 16)]
  else [c]

/-- A text between three quotation marks: newlines stand for themselves, and so do up to two
quotation marks in a row.  `marks` counts those that stand right before. -/
def multiWritten (marks : Nat) : List Char → List Char
  | [] => []
  | c :: rest =>
    if c = '"' then
      if marks < 2 then '"' :: multiWritten (marks + 1) rest
      else '\\' :: '"' :: multiWritten 0 rest
    else if c = '\n' then '\n' :: multiWritten 0 rest
    else written c ++ multiWritten 0 rest

/-- What stands between the opening marks and a text on several lines. -/
def leadNewline (s : List Char) : List Char :=
  if s.contains '\n' then ['\n'] else []

/-- A string as it is written in a given way. -/
def quoteAs (s : List Char) : Quoting → List Char
  | .basic => '"' :: (s.flatMap written ++ ['"'])
  | .literal => '\'' :: (s ++ ['\''])
  | .multiBasic =>
    '"' :: '"' :: '"' :: (leadNewline s ++ multiWritten 0 s ++ ['"', '"', '"'])
  | .multiLiteral => '\'' :: '\'' :: '\'' :: (leadNewline s ++ s ++ ['\'', '\'', '\''])

/-- A string as it is written. -/
def quote (s : List Char) : List Char := quoteAs s (quotingOf s)

end Deprecation.Toml
