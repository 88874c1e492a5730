/-
# The small parts of a pattern

Numbers, names, flags and escapes of a regular expression.  Each reader takes what it
describes from the front of the pattern and gives the rest, or nothing when the pattern is
wrong there.

In a verbose pattern, blanks and comments from `#` to the end of the line may stand between
any two characters.  The parameter `x` of a reader says whether the pattern is verbose.
-/
import Deprecation.Regex.Ast
import Deprecation.Text.Blank
import Deprecation.Text.Word

namespace Deprecation.Regex.Scanner

open Text

/-! ## Blanks and comments -/

/-- The pattern without the blanks and comments at its start. -/
def skipVerbose (inComment : Bool) : List Char → List Char
  | [] => []
  | c :: s =>
    if inComment then skipVerbose (c ≠ '\n') s
    else if isBlank c then skipVerbose false s
    else if c = '#' then skipVerbose true s
    else c :: s

/-- The pattern at its next character. -/
def skip (x : Bool) (s : List Char) : List Char :=
  if x then skipVerbose false s else s

/-- The pattern at the character after its first. -/
def advance (x : Bool) (s : List Char) : List Char :=
  skip x (s.drop 1)

@[simp] theorem skip_false (s : List Char) : skip false s = s := rfl

theorem length_skipVerbose_le (inComment : Bool) (s : List Char) :
    (skipVerbose inComment s).length ≤ s.length := by
  induction s generalizing inComment with
  | nil => simp [skipVerbose]
  | cons c s ih =>
    unfold skipVerbose
    have h1 := ih (c ≠ '\n')
    have h2 := ih false
    have h3 := ih true
    split
    · simp only [List.length_cons]; omega
    · split
      · simp only [List.length_cons]; omega
      · split
        · simp only [List.length_cons]; omega
        · simp

theorem length_skip_le (x : Bool) (s : List Char) : (skip x s).length ≤ s.length := by
  unfold skip
  split
  · exact length_skipVerbose_le false s
  · exact Nat.le_refl _

/-- The characters at the front that have some property, and the rest. -/
def collect (x : Bool) (p : Char → Bool) (s : List Char) : List Char × List Char :=
  match s with
  | [] => ([], [])
  | c :: rest =>
    if p c then
      have : (skip x rest).length < rest.length + 1 :=
        Nat.lt_succ_of_le (length_skip_le x rest)
      let (cs, rest') := collect x p (skip x rest)
      (c :: cs, rest')
    else ([], c :: rest)
termination_by s.length

/-! ## Numbers -/

/-- The largest number of a repetition. -/
def maxCount : Nat := 4294967295

/-- A decimal number with blanks around it, if it is not too large; `none` inside when there
are no digits. -/
def decimal (x : Bool) (s : List Char) : Option (Option Nat × List Char) :=
  let (digits, s) := collect x isAsciiDigit (s.dropWhile isBlank)
  let s := if (s.head?.map isBlank).getD false then skip x (s.dropWhile isBlank) else s
  if digits.isEmpty then some (none, s)
  else
    let n := Nat.ofDigitChars 10 digits 0
    if n ≤ maxCount then some (some n, s) else none

/-- The value of a hexadecimal digit. -/
def hexDigit? (c : Char) : Option Nat :=
  if isAsciiDigit c then some (c.toNat - 48)
  else if 'a' ≤ c ∧ c ≤ 'f' then some (c.toNat - 87)
  else if 'A' ≤ c ∧ c ≤ 'F' then some (c.toNat - 55)
  else none

/-- The character with the code point that hexadecimal digits spell, if there is one. -/
def charOfHex (digits : List Char) : Option Char := do
  let values ← digits.mapM hexDigit?
  if values.isEmpty then none
  else
    let n := values.foldl (fun n d => 16 * n + d) 0
    if n.isValidChar then some (Char.ofNat n) else none

/-- A given number of characters, and the rest. -/
def takeExactly (x : Bool) : Nat → List Char → Option (List Char × List Char)
  | 0, s => some ([], s)
  | _ + 1, [] => none
  | n + 1, c :: s => do
    let (cs, rest) ← takeExactly x n (skip x s)
    pure (c :: cs, rest)

/-- The literal after a backslash and the letter `x`, `u` or `U`. -/
def hexLiteral (x : Bool) (letter : Char) (s : List Char) : Option (Literal × List Char) :=
  match skip x s with
  | '\x7b' :: s => do
    let (digits, rest) := collect x (· ≠ '\x7d') (skip x s)
    if rest.isEmpty then none
    else
      let c ← charOfHex digits
      pure (⟨c, false⟩, advance x rest)
  | s => do
    let count := if letter = 'x' then 2 else if letter = 'u' then 4 else 8
    let (digits, rest) ← takeExactly x count s
    let c ← charOfHex digits
    pure (⟨c, letter = 'x'⟩, rest)

/-! ## Classes of Unicode characters -/

/-- A name with a value after a given sign, if the sign occurs. -/
def splitAtSign (sign name : List Char) : Option (List Char × List Char) :=
  let rec go : List Char → List Char → Option (List Char × List Char)
    | _, [] => none
    | before, c :: s =>
      if sign.isPrefixOf (c :: s) then some (before.reverse, (c :: s).drop sign.length)
      else go (c :: before) s
  go [] name

/-- What is asked for between the braces of a class of Unicode characters, and whether the
other characters are meant, as in `x!=y`. -/
def query (name : List Char) : UnicodeQuery × Bool :=
  match splitAtSign ['!', '='] name with
  | some (p, v) => (.valued p v, true)
  | none => match splitAtSign [':'] name with
    | some (p, v) => (.valued p v, false)
    | none => match splitAtSign ['='] name with
      | some (p, v) => (.valued p v, false)
      | none => (.named name, false)

/-- The class after a backslash and the letter `p` or `P`. -/
def unicodeClass (x : Bool) (s : List Char) : Option ((UnicodeQuery × Bool) × List Char) :=
  match skip x s with
  | [] => none
  | '\x7b' :: s =>
    let (name, rest) := collect x (· ≠ '\x7d') (skip x s)
    if rest.isEmpty then none else some (query name, rest.drop 1)
  | c :: s => if c = '\\' then none else some ((.named [c], false), skip x s)

/-! ## Escapes -/

/-- What an escape stands for. -/
inductive Escape where
  | literal (l : Literal)
  | anchor (a : Anchor)
  | letter (c : LetterClass) (negated : Bool)
  | unicode (q : UnicodeQuery) (negated : Bool)

/-- The characters that mean something in a pattern. -/
def isMeta (c : Char) : Bool :=
  "\\.+*?()|[]\x7b\x7d^$#&-~".toList.contains c

/-- A character that a backslash makes stand for itself. -/
def isEscapable (c : Char) : Bool :=
  isMeta c || (c.toNat < 0x80 && !isAsciiAlphanumeric c && c ≠ '<' && c ≠ '>')

/-- The word boundary that a name in braces selects. -/
def boundaryNamed (name : List Char) : Option Anchor :=
  if name = "start".toList then some .wordStart
  else if name = "end".toList then some .wordEnd
  else if name = "start-half".toList then some .wordStartHalf
  else if name = "end-half".toList then some .wordEndHalf
  else none

/-- A character of the name of a word boundary. -/
def isBoundaryChar (c : Char) : Bool := isAsciiLetter c || c = '-'

/-- The anchor after `\b`.  A brace that no letter follows begins a repetition. -/
def boundary (x : Bool) (s : List Char) : Option (Anchor × List Char) :=
  match s with
  | '\x7b' :: inside =>
    match skip x inside with
    | [] => none
    | c :: inside =>
      if isBoundaryChar c then
        let (name, rest) := collect x isBoundaryChar (c :: inside)
        if rest.head? = some '\x7d' then
          (boundaryNamed name).map fun a => (a, rest.drop 1)
        else none
      else some (.wordBoundary, s)
  | _ => some (.wordBoundary, s)

/-- The character that a letter after a backslash stands for. -/
def control (c : Char) : Option Char :=
  if c = 'a' then some '\x07'
  else if c = 'f' then some '\x0c'
  else if c = 't' then some '\t'
  else if c = 'n' then some '\n'
  else if c = 'r' then some '\r'
  else if c = 'v' then some '\x0b'
  else none

/-- The escape after a backslash. -/
def escape (x : Bool) : List Char → Option (Escape × List Char)
  | [] => none
  | c :: s =>
    if isEscapable c then some (.literal ⟨c, false⟩, s)
    else match control c with
      | some c' => some (.literal ⟨c', false⟩, s)
      | none =>
        if c = 'x' ∨ c = 'u' ∨ c = 'U' then
          (hexLiteral x c s).map fun r => (.literal r.1, r.2)
        else if c = 'p' ∨ c = 'P' then
          (unicodeClass x s).map fun r => (.unicode r.1.1 (r.1.2 != (c == 'P')), r.2)
        else if c = 'd' ∨ c = 'D' then some (.letter .digit (c = 'D'), s)
        else if c = 's' ∨ c = 'S' then some (.letter .space (c = 'S'), s)
        else if c = 'w' ∨ c = 'W' then some (.letter .word (c = 'W'), s)
        else if c = 'A' then some (.anchor .textStart, s)
        else if c = 'z' then some (.anchor .textEnd, s)
        else if c = 'B' then some (.anchor .notWordBoundary, s)
        else if c = '<' then some (.anchor .wordStart, s)
        else if c = '>' then some (.anchor .wordEnd, s)
        else if c = 'b' then (boundary x s).map fun r => (.anchor r.1, r.2)
        else none

/-! ## Flags and names of groups -/

/-- The flag with a letter. -/
def flagOf (c : Char) : Option Flag :=
  if c = 'i' then some .ignoreCase
  else if c = 'm' then some .multiLine
  else if c = 's' then some .dotAll
  else if c = 'U' then some .swapGreed
  else if c = 'u' then some .unicode
  else if c = 'x' then some .verbose
  else if c = 'R' then some .crlf
  else none

/-- The flags up to a colon or a closing parenthesis, that character, and the rest; `on` says
whether no minus sign has been passed, and `dangling` whether the last character was one. -/
def flagsUntil (on dangling : Bool) (found : Flags) :
    List Char → Option (Flags × Char × List Char)
  | [] => none
  | c :: s =>
    if c = ':' ∨ c = ')' then if dangling then none else some (found.reverse, c, s)
    else if c = '-' then if on then flagsUntil false true found s else none
    else match flagOf c with
      | some f =>
        if found.any (·.1 == f) then none else flagsUntil on false ((f, on) :: found) s
      | none => none

/-- A character of a group's name. -/
def isNameChar (isFirst : Bool) (c : Char) : Bool :=
  if isFirst then c = '_' || isAlphabetic c
  else c = '_' || c = '.' || c = '[' || c = ']' || isAlphanumeric c

/-- The name of a group up to its closing bracket, and the rest. -/
def groupName (s : List Char) : Option (List Char × List Char) :=
  let name := s.takeWhile (· ≠ '>')
  match s.dropWhile (· ≠ '>'), name with
  | _ :: rest, first :: others =>
    if isNameChar true first && others.all (isNameChar false) then some (name, rest) else none
  | _, _ => none

end Deprecation.Regex.Scanner
