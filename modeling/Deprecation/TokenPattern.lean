/-
# Patterns for tokens

A deprecated token is detected by a pattern that its shape decides.  The first shape that
applies counts.

* A *legacy type* is a bare identifier that begins with one of the legacy prefixes and goes on
  with an ASCII capital.  It is searched for as a whole word.
* A *function reference* has a parenthesis and, before it, the name of a function.  A member
  access or a call of that name is searched for.
* A *property access* has a dot and a name after the last one.  An access to that name is
  searched for.
* Anything else is searched for *literally*.

A word boundary is demanded only at an end where the searched text has a letter, a number or
an underscore; elsewhere it would demand a word character on the other side.
-/
import Deprecation.Regex

namespace Deprecation.TokenPattern

open Text

/-- The shape of a token. -/
inductive Shape where
  | legacyType
  | functionReference
  | propertyAccess
  | literal
deriving DecidableEq, Repr, Inhabited

/-- A text as a pattern that matches just it. -/
def escape (s : List Char) : List Char :=
  s.flatMap fun c => if Regex.Scanner.isMeta c then ['\\', c] else [c]

/-- A character next to which a word boundary is demanded. -/
def isEdge (c : Char) : Bool := isAlphanumeric c || c == '_'

/-- The word boundary in front of a text, if it is demanded. -/
def leftBound (s : List Char) : List Char :=
  if (s.head?.map isEdge).getD false then ['\\', 'b'] else []

/-- The word boundary behind a text, if it is demanded. -/
def rightBound (s : List Char) : List Char :=
  if (s.getLast?.map isEdge).getD false then ['\\', 'b'] else []

/-- What follows the last dot, without blanks around it. -/
def lastSegment (s : List Char) : List Char :=
  trim (s.reverse.takeWhile (· ≠ '.')).reverse

/-- Whether a token goes on with an ASCII capital after a prefix. -/
def startsWithLegacy (token legacyPrefix : List Char) : Bool :=
  !legacyPrefix.isEmpty && legacyPrefix.isPrefixOf token
    && ((token.drop legacyPrefix.length).head?.map isAsciiCapital).getD false

/-- Whether a token is an identifier. -/
def isIdentifier (token : List Char) : Bool :=
  (token.head?.map fun c => isAsciiLetter c || c == '_').getD false && token.all isEdge

/-- Whether a token is a legacy type. -/
def isLegacyType (prefixes : List String) (token : List Char) : Bool :=
  isIdentifier token && prefixes.any fun p => startsWithLegacy token p.toList

/-- The function that a token refers to: the last segment of what stands before the first
parenthesis, if there is a parenthesis and a segment. -/
def functionName (token : List Char) : Option (List Char) :=
  if token.contains '(' then
    let name := lastSegment (token.takeWhile (· ≠ '('))
    if name.isEmpty then none else some name
  else none

/-- The property that a token refers to: its last segment, if there is a dot and a segment. -/
def propertyName (token : List Char) : Option (List Char) :=
  if token.contains '.' then
    let name := lastSegment token
    if name.isEmpty then none else some name
  else none

/-- The pattern of a whole word. -/
def wholeWord (s : List Char) : List Char :=
  "\\b".toList ++ escape s ++ "\\b".toList

/-- The pattern of a member access to a name or a call of it. -/
def accessOrCall (name : List Char) : List Char :=
  "(?:\\.".toList ++ escape name ++ rightBound name ++ '|' :: leftBound name ++ escape name
    ++ "\\()".toList

/-- The pattern of an access to a name. -/
def access (name : List Char) : List Char :=
  "\\.".toList ++ escape name ++ rightBound name

/-- The pattern of a text by itself. -/
def literally (s : List Char) : List Char :=
  leftBound s ++ escape s ++ rightBound s

/-- The shape and the pattern of a token without blanks around it. -/
def ofTrimmed (prefixes : List String) (token : List Char) : Shape × List Char :=
  if isLegacyType prefixes token then (.legacyType, wholeWord token)
  else match functionName token with
    | some name => (.functionReference, accessOrCall name)
    | none => match propertyName token with
      | some name => (.propertyAccess, access name)
      | none => (.literal, literally token)

/-- The shape of a token. -/
def shape (prefixes : List String) (token : String) : Shape :=
  (ofTrimmed prefixes (trim token.toList)).1

/-- The pattern of a token. -/
def pattern (prefixes : List String) (token : String) : String :=
  String.ofList (ofTrimmed prefixes (trim token.toList)).2

end Deprecation.TokenPattern
