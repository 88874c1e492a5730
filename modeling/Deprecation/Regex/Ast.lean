/-
# The syntax of regular expressions

The tree that a pattern is parsed into.  It keeps what was written: flags are not applied,
classes are not resolved, and repetitions are not unfolded.
-/

namespace Deprecation.Regex

/-- A character of a pattern.  `isByte` holds when it was written as `\x` and two digits,
which without Unicode names a byte. -/
structure Literal where
  char : Char
  isByte : Bool := false
deriving DecidableEq, Repr, Inhabited

/-- What an inline flag switches. -/
inductive Flag where
  /-- Case makes no difference. -/
  | ignoreCase
  /-- `^` and `$` also match at lines. -/
  | multiLine
  /-- The dot also matches a newline. -/
  | dotAll
  /-- Repetitions are lazy unless followed by `?`. -/
  | swapGreed
  /-- Classes and word boundaries know all of Unicode. -/
  | unicode
  /-- Blanks and comments in the pattern are skipped. -/
  | verbose
  /-- A carriage return and a newline end a line too. -/
  | crlf
deriving DecidableEq, Repr, Inhabited

/-- Flags with the values they are given. -/
abbrev Flags := List (Flag × Bool)

/-- The classes named by one letter after a backslash. -/
inductive LetterClass where
  | digit
  | space
  | word
deriving DecidableEq, Repr, Inhabited

/-- The classes named between colons in brackets. -/
inductive AsciiClass where
  | alnum
  | alpha
  | ascii
  | blank
  | cntrl
  | digit
  | graph
  | lower
  | print
  | punct
  | space
  | upper
  | word
  | xdigit
deriving DecidableEq, Repr, Inhabited

/-- What a class of Unicode characters is asked for by. -/
inductive UnicodeQuery where
  /-- A category, script or property. -/
  | named (name : List Char)
  /-- A property and one of its values. -/
  | valued (property value : List Char)
deriving DecidableEq, Repr, Inhabited

/-- The operations on sets in brackets. -/
inductive SetOp where
  | inter
  | diff
  | symmDiff
deriving DecidableEq, Repr, Inhabited

/-- What stands between brackets. -/
inductive ClassAst where
  | literal (l : Literal)
  | range (low high : Literal)
  | ascii (c : AsciiClass) (negated : Bool)
  | letter (c : LetterClass) (negated : Bool)
  | unicode (q : UnicodeQuery) (negated : Bool)
  | bracket (negated : Bool) (inside : ClassAst)
  | union (items : List ClassAst)
  | op (o : SetOp) (left right : ClassAst)
deriving Repr, Inhabited

/-- The conditions that match without taking a character. -/
inductive Anchor where
  /-- `^` -/
  | lineStart
  /-- `$` -/
  | lineEnd
  /-- `\A` -/
  | textStart
  /-- `\z` -/
  | textEnd
  /-- `\b` -/
  | wordBoundary
  /-- `\B` -/
  | notWordBoundary
  /-- `\b{start}` and `\<` -/
  | wordStart
  /-- `\b{end}` and `\>` -/
  | wordEnd
  /-- `\b{start-half}` -/
  | wordStartHalf
  /-- `\b{end-half}` -/
  | wordEndHalf
deriving DecidableEq, Repr, Inhabited

/-- A regular expression as it was written. -/
inductive Ast where
  | empty
  /-- Flags for the rest of the group. -/
  | flags (f : Flags)
  | literal (l : Literal)
  | dot
  | anchor (a : Anchor)
  | letter (c : LetterClass) (negated : Bool)
  | unicode (q : UnicodeQuery) (negated : Bool)
  | bracket (negated : Bool) (inside : ClassAst)
  /-- A repetition; without a `max` it has no upper end. -/
  | repeated (min : Nat) (max : Option Nat) (greedy : Bool) (a : Ast)
  /-- A group, the flags that hold inside, and whether its place in a match is wanted. -/
  | group (captures : Bool) (f : Flags) (a : Ast)
  | alternatives (branches : List Ast)
  | sequence (items : List Ast)
deriving Repr, Inhabited

/-- A sequence of items; a single item is itself. -/
def Ast.ofItems : List Ast → Ast
  | [] => .empty
  | [a] => a
  | as => .sequence as

/-- A choice between branches; a single branch is itself. -/
def Ast.ofBranches : List Ast → Ast
  | [a] => a
  | as => .alternatives as

/-- A union of items; a single item is itself. -/
def ClassAst.ofItems : List ClassAst → ClassAst
  | [a] => a
  | as => .union as

/-! ## Depth -/

mutual

/-- How deep what stands between brackets is nested. -/
def ClassAst.depth : ClassAst → Nat
  | .bracket _ inside => inside.depth + 1
  | .union items => if items.isEmpty then 0 else classDepths items + 1
  | .op _ l r => max l.depth r.depth + 1
  | _ => 0

/-- The greatest depth of some items. -/
def classDepths : List ClassAst → Nat
  | [] => 0
  | a :: rest => max a.depth (classDepths rest)

end

mutual

/-- How deep an expression is nested. -/
def Ast.depth : Ast → Nat
  | .bracket _ inside => inside.depth + 1
  | .repeated _ _ _ a => a.depth + 1
  | .group _ _ a => a.depth + 1
  | .alternatives branches => depths branches + 1
  | .sequence items => depths items + 1
  | _ => 0

/-- The greatest depth of some expressions. -/
def depths : List Ast → Nat
  | [] => 0
  | a :: rest => max a.depth (depths rest)

end

end Deprecation.Regex
