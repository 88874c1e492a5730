/-
# JSON tokens

A JSON text is a sequence of tokens, with blanks between them.  This file defines the tokens,
how each of them is written, and the scanner that recovers the tokens from a text.

The scanner is a machine that takes one character at a time.  Its input may contain bytes
that are part of no character; such a byte, given as `none`, is an error everywhere but in a
string, which it turns into a string without a text.  So does an escape `\u` that names half
of a surrogate pair without its other half.
-/
import Deprecation.Datum

namespace Deprecation.Json

/-- A JSON token. -/
inductive Token where
  | openTable
  | closeTable
  | openList
  | closeList
  | colon
  | comma
  | null
  | bool (b : Bool)
  /-- A string, or `none` when it denotes no text. -/
  | text (s : Option String)
  /-- A number, as it is spelled. -/
  | number (spelling : List Char)
deriving DecidableEq, Repr, Inhabited

/-! ## Writing -/

/-- A hexadecimal digit, in small letters. -/
def hexDigit (n : Nat) : Char :=
  if n < 10 then Char.ofNat (n + 48) else Char.ofNat (n + 87)

/-- A character as it is written inside a string. -/
def escaped (c : Char) : List Char :=
  if c = '"' then ['\\', '"']
  else if c = '\\' then ['\\', '\\']
  else if c = '\x08' then ['\\', 'b']
  else if c = '\x0c' then ['\\', 'f']
  else if c = '\n' then ['\\', 'n']
  else if c = '\r' then ['\\', 'r']
  else if c = '\t' then ['\\', 't']
  else if c.toNat < 0x20 then
    ['\\', 'u', '0', '0', hexDigit (c.toNat / 16), hexDigit (c.toNat % 16)]
  else [c]

/-- A string between its quotes. -/
def quoted (s : String) : List Char :=
  '"' :: s.toList.flatMap escaped ++ ['"']

namespace Token

/-- A token as it is written.  A string without a text is written as half a surrogate
pair. -/
def spelled : Token → List Char
  | openTable => ['\x7b']
  | closeTable => ['\x7d']
  | openList => ['[']
  | closeList => [']']
  | colon => [':']
  | comma => [',']
  | null => "null".toList
  | bool true => "true".toList
  | bool false => "false".toList
  | text (some s) => quoted s
  | text none => "\"\\ud800\"".toList
  | number spelling => spelling

end Token

/-! ## Scanning -/

/-- How far a number has been read. -/
inductive Numeral where
  /-- After a minus sign; a digit must follow. -/
  | minus
  /-- After a leading zero; no digit may follow. -/
  | zero
  /-- After further digits. -/
  | whole
  /-- After the point; a digit must follow. -/
  | point
  /-- After digits behind the point. -/
  | fraction
  /-- After the exponent letter; a sign or a digit must follow. -/
  | letter
  /-- After the exponent's sign; a digit must follow. -/
  | sign
  /-- After digits of the exponent. -/
  | exponent
deriving DecidableEq, Repr

namespace Numeral

/-- Whether a number may end here. -/
def complete : Numeral → Bool
  | zero | whole | fraction | exponent => true
  | minus | point | letter | sign => false

/-- How far the number is read after one more character, if it goes on with that
character. -/
def next (c : Char) : Numeral → Option Numeral
  | minus => if c = '0' then some zero else if c.isDigit then some whole else none
  | zero =>
    if c = '.' then some point else if c = 'e' ∨ c = 'E' then some letter else none
  | whole =>
    if c.isDigit then some whole
    else if c = '.' then some point
    else if c = 'e' ∨ c = 'E' then some letter
    else none
  | point => if c.isDigit then some fraction else none
  | fraction =>
    if c.isDigit then some fraction
    else if c = 'e' ∨ c = 'E' then some letter
    else none
  | letter =>
    if c = '+' ∨ c = '-' then some sign else if c.isDigit then some exponent else none
  | sign => if c.isDigit then some exponent else none
  | exponent => if c.isDigit then some exponent else none

/-- The start of a number, if it can start with the character. -/
def start (c : Char) : Option Numeral :=
  if c = '-' then some minus
  else if c = '0' then some zero
  else if c.isDigit then some whole
  else none

end Numeral

/-- What has been read of a string: its characters, last first; whether it still denotes a
text; and the first half of a surrogate pair that waits for the second. -/
structure Quote where
  chars : List Char := []
  sound : Bool := true
  half : Option Nat := none
deriving DecidableEq, Repr

namespace Quote

/-- Takes one character of the text. -/
def push (q : Quote) (c : Char) : Quote :=
  { chars := c :: q.chars, sound := q.sound && q.half.isNone }

/-- Takes something that stands for no character. -/
def spoil (q : Quote) : Quote :=
  { q with sound := false, half := none }

/-- Takes the code unit that an escape names. -/
def unit (q : Quote) (n : Nat) : Quote :=
  if 0xDC00 ≤ n ∧ n < 0xE000 then
    match q.half with
    | some h =>
      { q with
        chars := Char.ofNat (0x10000 + (h - 0xD800) * 0x400 + (n - 0xDC00)) :: q.chars
        half := none }
    | none => q.spoil
  else if 0xD800 ≤ n ∧ n < 0xDC00 then
    { q with sound := q.sound && q.half.isNone, half := some n }
  else q.push (Char.ofNat n)

/-- The string, when its closing quote has been reached. -/
def close (q : Quote) : Option String :=
  if q.sound && q.half.isNone then some (String.ofList q.chars.reverse) else none

end Quote

/-- Where the scanner stands. -/
inductive Scan where
  /-- Between tokens. -/
  | between
  /-- Inside `null`, `true` or `false`: the letters to come, and the token. -/
  | word (rest : List Char) (token : Token)
  /-- Inside a number: its characters, last first. -/
  | number (spelling : List Char) (at' : Numeral)
  /-- Inside a string. -/
  | quote (q : Quote)
  /-- After a backslash in a string. -/
  | escape (q : Quote)
  /-- Inside a `\u` escape: the digits to come, and the value of those read. -/
  | hex (q : Quote) (missing value : Nat)
  /-- No JSON text begins with what has been read. -/
  | failed
deriving DecidableEq, Repr

/-- The value of a hexadecimal digit. -/
def hexValue? (c : Char) : Option Nat :=
  if '0' ≤ c ∧ c ≤ '9' then some (c.toNat - 48)
  else if 'a' ≤ c ∧ c ≤ 'f' then some (c.toNat - 87)
  else if 'A' ≤ c ∧ c ≤ 'F' then some (c.toNat - 55)
  else none

/-- A blank that may stand between tokens. -/
def isGap (c : Char) : Bool :=
  c = ' ' || c = '\n' || c = '\r' || c = '\t'

/-- The character that a one-letter escape stands for. -/
def unescape (c : Char) : Option Char :=
  if c = '"' then some '"'
  else if c = '\\' then some '\\'
  else if c = '/' then some '/'
  else if c = 'b' then some '\x08'
  else if c = 'f' then some '\x0c'
  else if c = 'n' then some '\n'
  else if c = 'r' then some '\r'
  else if c = 't' then some '\t'
  else none

namespace Scan

/-- The tokens found so far, last first, and where the scanner stands. -/
abbrev Progress := List Token × Scan

/-- Takes a character that stands between tokens. -/
def startToken (found : List Token) (c : Char) : Progress :=
  if isGap c then (found, between)
  else if c = '\x7b' then (.openTable :: found, between)
  else if c = '\x7d' then (.closeTable :: found, between)
  else if c = '[' then (.openList :: found, between)
  else if c = ']' then (.closeList :: found, between)
  else if c = ':' then (.colon :: found, between)
  else if c = ',' then (.comma :: found, between)
  else if c = '"' then (found, quote {})
  else if c = 'n' then (found, word "ull".toList .null)
  else if c = 't' then (found, word "rue".toList (.bool true))
  else if c = 'f' then (found, word "alse".toList (.bool false))
  else match Numeral.start c with
    | some n => (found, number [c] n)
    | none => (found, failed)

/-- Takes one character, or a byte that belongs to none. -/
def step : Progress → Option Char → Progress
  | (found, failed), _ => (found, failed)
  | (found, quote q), none => (found, quote q.spoil)
  | (found, _), none => (found, failed)
  | (found, between), some c => startToken found c
  | (found, word [] _), some _ => (found, failed)
  | (found, word [last] token), some c =>
    if c = last then (token :: found, between) else (found, failed)
  | (found, word (first :: rest) token), some c =>
    if c = first then (found, word rest token) else (found, failed)
  | (found, number spelling n), some c =>
    match n.next c with
    | some n' => (found, number (c :: spelling) n')
    | none =>
      if n.complete then startToken (.number spelling.reverse :: found) c
      else (found, failed)
  | (found, quote q), some c =>
    if c = '"' then (.text q.close :: found, between)
    else if c = '\\' then (found, escape q)
    else if c.toNat < 0x20 then (found, failed)
    else (found, quote (q.push c))
  | (found, escape q), some c =>
    if c = 'u' then (found, hex q 4 0)
    else match unescape c with
      | some c' => (found, quote (q.push c'))
      | none => (found, failed)
  | (found, hex q missing value), some c =>
    match hexValue? c with
    | some d =>
      if missing ≤ 1 then (found, quote (q.unit (16 * value + d)))
      else (found, hex q (missing - 1) (16 * value + d))
    | none => (found, failed)

/-- The tokens of a finished text. -/
def finish : Progress → Option (List Token)
  | (found, between) => some found.reverse
  | (found, number spelling n) =>
    if n.complete then some (Token.number spelling.reverse :: found).reverse else none
  | _ => none

end Scan

/-- The tokens of a text, if it consists of tokens and blanks. -/
def tokens (s : List (Option Char)) : Option (List Token) :=
  Scan.finish (s.foldl Scan.step ([], .between))

end Deprecation.Json
