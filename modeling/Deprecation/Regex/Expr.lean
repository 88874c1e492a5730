/-
# Regular expressions

The expressions that are searched for.  Flags have been applied and classes resolved, so an
expression is built from character sets and conditions on the place of the match by
sequence, choice and repetition.  Groups are kept, although a group matches what its inside
matches.

Choice and repetition prefer: a choice its left side, a greedy repetition more turns, a lazy
one fewer.  A condition looks only at the characters before and after its place.
-/
import Deprecation.Regex.CharSet

namespace Deprecation.Regex

open Text

/-- A condition on the place between two characters. -/
inductive Look where
  | textStart
  | textEnd
  | lineStart
  | lineEnd
  /-- At the start of a line; a carriage return, a newline, and both together end one. -/
  | lineStartCrlf
  | lineEndCrlf
  /-- A word character on one side.  Conditions on words take all of Unicode or only ASCII
  into account. -/
  | wordBoundary (unicode : Bool)
  | notWordBoundary (unicode : Bool)
  | wordStart (unicode : Bool)
  | wordEnd (unicode : Bool)
  | wordStartHalf (unicode : Bool)
  | wordEndHalf (unicode : Bool)
deriving DecidableEq, Repr, Inhabited

namespace Look

/-- Whether a word character is there. -/
def wordAt (unicode : Bool) : Option Char → Bool
  | some c => if unicode then isWord c else isAsciiAlphanumeric c || c == '_'
  | none => false

/-- Whether a condition holds between two characters, either of which is absent at an end of
the text. -/
def holds (before after : Option Char) : Look → Bool
  | textStart => before.isNone
  | textEnd => after.isNone
  | lineStart => before.isNone || before == some '\n'
  | lineEnd => after.isNone || after == some '\n'
  | lineStartCrlf =>
    before.isNone || before == some '\n' || (before == some '\r' && after != some '\n')
  | lineEndCrlf =>
    after.isNone || after == some '\r' || (after == some '\n' && before != some '\r')
  | wordBoundary u => wordAt u before != wordAt u after
  | notWordBoundary u => wordAt u before == wordAt u after
  | wordStart u => !wordAt u before && wordAt u after
  | wordEnd u => wordAt u before && !wordAt u after
  | wordStartHalf u => !wordAt u before
  | wordEndHalf u => !wordAt u after

end Look

/-- A regular expression. -/
inductive Expr where
  /-- Matches the empty text. -/
  | empty
  /-- Matches one character of a set. -/
  | set (s : CharSet)
  /-- Matches the empty text where a condition holds. -/
  | look (l : Look)
  | seq (a b : Expr)
  | alt (a b : Expr)
  /-- Matches `min` to `max` times, or without an upper end. -/
  | rep (min : Nat) (max : Option Nat) (greedy : Bool) (a : Expr)
  /-- Matches what its inside matches; `captures` says whether the place of that is wanted. -/
  | group (captures : Bool) (a : Expr)
deriving Repr, Inhabited

namespace Expr

/-- A sequence of expressions. -/
def sequence : List Expr → Expr
  | [] => .empty
  | [a] => a
  | a :: as => .seq a (sequence as)

/-- A choice between expressions, the first preferred. -/
def choice : List Expr → Expr
  | [] => .empty
  | [a] => a
  | a :: as => .alt a (choice as)

/-- Whether an expression takes no character. -/
def takesNothing : Expr → Bool
  | empty | look _ => true
  | set _ => false
  | seq a b | alt a b => a.takesNothing && b.takesNothing
  | rep _ _ _ a | group _ a => a.takesNothing

/-- A repetition.  What takes no character needs no second turn, no turn at all is empty, and
exactly one turn is the expression itself. -/
def repeated (min : Nat) (max : Option Nat) (greedy : Bool) (a : Expr) : Expr :=
  let (min, max) :=
    if a.takesNothing then (Nat.min min 1, some (Nat.min (max.getD 1) 1)) else (min, max)
  if max = some 0 then .empty
  else if min = 1 ∧ max = some 1 then a
  else .rep min max greedy a

/-- Whether an expression may match the empty text, as far as its shape shows. -/
def nullable : Expr → Bool
  | empty | look _ => true
  | set _ => false
  | seq a b => a.nullable && b.nullable
  | alt a b => a.nullable || b.nullable
  | rep min _ _ a => min == 0 || a.nullable
  | group _ a => a.nullable

end Expr

end Deprecation.Regex
