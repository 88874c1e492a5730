/-
# The sentences that announce a deprecation

A line of a release note announces a deprecation when it follows one of three templates.
Each quotes API tokens between backticks:

* renamed: a token, `has been renamed to`, a token;
* removed: the line opens with the word `removed`, perhaps after a list marker, and a token
  follows somewhere;
* changed: a token, anything, `deprecated in favor of` (or `favour`), a token.

The first and the last may stand anywhere in the line, and the leftmost place counts.  The
templates are tried in this order.  A template whose tokens are blank has not matched, and
the next one is tried.

Every template is read from left to right without going back: a quoted token ends at the
next backtick, and a gap ends at the first character that is not blank.
-/
import Deprecation.Record
import Deprecation.Text.Blank
import Deprecation.Text.Word

namespace Deprecation.Changelog

open Text

/-! ## Pieces of a sentence

Each of these takes what it describes from the front of a list and gives the rest, or
nothing when the list does not start so. -/

/-- The rest after a fixed word. -/
def dropWord : List Char → List Char → Option (List Char)
  | [], s => some s
  | _ :: _, [] => none
  | w :: word, c :: s => if c = w then dropWord word s else none

/-- The rest after a fixed word, small ASCII letters of which stand for either case. -/
def dropWordAnyCase : List Char → List Char → Option (List Char)
  | [], s => some s
  | _ :: _, [] => none
  | w :: word, c :: s => if c.toLower = w then dropWordAnyCase word s else none

/-- The rest after a gap of at least one blank. -/
def dropGap : List Char → Option (List Char)
  | [] => none
  | c :: s => if isBlank c then some (s.dropWhile isBlank) else none

/-- The rest after a gap and a word. -/
def dropGapWord (word : String) (s : List Char) : Option (List Char) :=
  dropGap s >>= dropWord word.toList

/-- A token between backticks, which may not be empty, and the rest. -/
def takeQuoted : List Char → Option (List Char × List Char)
  | '`' :: s =>
    let token := s.takeWhile (· ≠ '`')
    match s.dropWhile (· ≠ '`') with
    | [] => none
    | _ :: rest => if token.isEmpty then none else some (token, rest)
  | _ => none

/-- The first success of a reader along a list, from left to right. -/
def firstAlong {α : Type} (read : List Char → Option α) : List Char → Option α
  | [] => read []
  | c :: s => match read (c :: s) with
    | some a => some a
    | none => firstAlong read s

/-- The first success of a reader along a list, tried only where no word character stands
just before; `before` is the character before the list. -/
def firstAtWordStart {α : Type} (read : List Char → Option α) :
    Char → List Char → Option α
  | before, [] => if isWord before then none else read []
  | before, c :: s =>
    match if isWord before then none else read (c :: s) with
    | some a => some a
    | none => firstAtWordStart read c s

/-! ## The templates -/

/-- The tokens of a renaming at the front of a list. -/
def renamedHere (s : List Char) : Option (List Char × List Char) := do
  let (old, s) ← takeQuoted s
  let s ← dropGapWord "has" s
  let s ← dropGapWord "been" s
  let s ← dropGapWord "renamed" s
  let s ← dropGapWord "to" s
  let s ← dropGap s
  let (new, _) ← takeQuoted s
  pure (old, new)

/-- The tokens of the leftmost renaming in a line. -/
def renamed (line : List Char) : Option (List Char × List Char) :=
  firstAlong renamedHere line

/-- The rest after a list marker and a gap; a list that starts with no marker is its own
rest. -/
def dropMarker : List Char → Option (List Char)
  | [] => some []
  | c :: s => if c = '-' ∨ c = '*' ∨ c = '+' then dropGap s else some (c :: s)

/-- Whether no word character stands at the front of a list. -/
def wordEnds : List Char → Bool
  | [] => true
  | c :: _ => !isWord c

/-- The token of a removal. -/
def removed (line : List Char) : Option (List Char) := do
  let s ← dropMarker (line.dropWhile isBlank)
  let s ← dropWordAnyCase "removed".toList s
  if wordEnds s then
    let (old, _) ← takeQuoted (s.dropWhile (· ≠ '`'))
    pure old
  else none

/-- The rest after `favor` or `favour`. -/
def dropFavor (s : List Char) : Option (List Char) := do
  let s ← dropWord "favo".toList s
  match dropWord ['u'] s with
  | some s => dropWord ['r'] s
  | none => dropWord ['r'] s

/-- The new token of the clause `deprecated in favor of` at the front of a list. -/
def favoredHere (s : List Char) : Option (List Char) := do
  let s ← dropWord "deprecated".toList s
  let s ← dropGapWord "in" s
  let s ← dropGap s
  let s ← dropFavor s
  let s ← dropGapWord "of" s
  let s ← dropGap s
  let (new, _) ← takeQuoted s
  pure new

/-- The tokens of a change whose first token is at the front of a list. -/
def changedHere (s : List Char) : Option (List Char × List Char) := do
  let (old, s) ← takeQuoted s
  let new ← firstAtWordStart favoredHere '`' s
  pure (old, new)

/-- The tokens of the leftmost change in a line. -/
def changed (line : List Char) : Option (List Char × List Char) :=
  firstAlong changedHere line

/-! ## From a line to a record -/

/-- A token without the blanks around it, if anything is left. -/
def tokenOf (s : List Char) : Option String :=
  let s := trim s
  if s.isEmpty then none else some (String.ofList s)

/-- The record of two tokens, if neither is blank. -/
def replacing (category : Category) (release : String) (tokens : List Char × List Char) :
    Option Record := do
  let old ← tokenOf tokens.1
  let new ← tokenOf tokens.2
  pure ⟨old, some new, category, release⟩

/-- The record of one token, if it is not blank. -/
def removing (release : String) (token : List Char) : Option Record := do
  let old ← tokenOf token
  pure ⟨old, none, .removed, release⟩

/-- The record that a line announces for a release. -/
def recordOf (release : String) (line : List Char) : Option Record :=
  (renamed line >>= replacing .renamed release)
    <|> (removed line >>= removing release)
    <|> (changed line >>= replacing .changed release)

end Deprecation.Changelog
