/-
# Changelog documents

A changelog document holds the notes of many releases under headings.  A release heading is
a line that opens with one to three `#` signs and a gap, then the version label, perhaps in
square brackets and perhaps after a `v`, perhaps followed by a link target in parentheses,
and then a blank or the end of the line:

    ## 2.1.0
    # v2.1.0
    ### [2.1.0] - 2024-01-01
    ## [2.1.0](https://example.org/2.1.0) - 2024-01-01

The label is digits, further digits after dots, and perhaps a dash with letters, digits, dots
and dashes.  What precedes the first heading belongs to no release.
-/
import Deprecation.Changelog.Release

namespace Deprecation.Changelog

open Text

/-! ## Release headings -/

/-- A run of at least one decimal digit, and the rest. -/
def takeDigits (s : List Char) : Option (List Char × List Char) :=
  let digits := s.takeWhile isDigit
  if digits.isEmpty then none else some (digits, s.dropWhile isDigit)

theorem takeDigits_length {s d r : List Char} (h : takeDigits s = some (d, r)) :
    r.length < s.length := by
  simp only [takeDigits] at h
  split at h
  · cases h
  · next hd =>
    cases h
    have hl := congrArg List.length (List.takeWhile_append_dropWhile (p := isDigit) (l := s))
    rw [List.length_append] at hl
    have : (s.takeWhile isDigit).length ≠ 0 := by
      intro h0
      exact hd (by simp [List.length_eq_zero_iff.mp h0])
    omega

/-- As many parts of a dot and digits as follow, and the rest. -/
def takeDottedDigits (s : List Char) : List Char × List Char :=
  match s with
  | '.' :: rest =>
    match h : takeDigits rest with
    | some (digits, rest') =>
      have : rest'.length < rest.length := takeDigits_length h
      let (more, rest'') := takeDottedDigits rest'
      ('.' :: digits ++ more, rest'')
    | none => ([], s)
  | _ => ([], s)
termination_by s.length
decreasing_by simp only [List.length_cons]; omega

/-- A character that may stand after the dash of a version label. -/
def isTagChar (c : Char) : Bool :=
  isAsciiAlphanumeric c || c == '.' || c == '-'

/-- The dash and tag that may end a version label, and the rest. -/
def takeTag (s : List Char) : List Char × List Char :=
  match s with
  | '-' :: rest =>
    let tag := rest.takeWhile isTagChar
    if tag.isEmpty then ([], s) else ('-' :: tag, rest.dropWhile isTagChar)
  | _ => ([], s)

/-- A version label, and the rest. -/
def takeVersion (s : List Char) : Option (List Char × List Char) := do
  let (major, s) ← takeDigits s
  let (minor, s) := takeDottedDigits s
  let (tag, s) := takeTag s
  pure (major ++ minor ++ tag, s)

/-- The rest after one given character, if it is there. -/
def dropOptional (c : Char) : List Char → List Char
  | [] => []
  | d :: s => if d = c then s else d :: s

/-- The rest after a link target in parentheses, if one is opened. -/
def dropTarget (s : List Char) : Option (List Char) :=
  match s with
  | '(' :: rest => match rest.dropWhile (· ≠ ')') with
    | [] => none
    | _ :: rest => some rest
  | _ => some s

/-- Whether the list is at its end or at a blank. -/
def atGapOrEnd : List Char → Bool
  | [] => true
  | c :: _ => isBlank c

/-- The version label of a line that is a release heading. -/
def headingVersion (line : List Char) : Option (List Char) := do
  let marks := line.takeWhile (· = '#')
  if marks.length = 0 ∨ 3 < marks.length then none
  else
    let s ← dropGap (line.dropWhile (· = '#'))
    let (version, s) ← takeVersion (dropOptional 'v' (dropOptional '[' s))
    let s ← dropTarget (dropOptional ']' s)
    if atGapOrEnd s then pure version else none

/-! ## Sections -/

/-- The notes of one release in a changelog document. -/
structure Section where
  /-- The version label of the heading. -/
  version : String
  /-- The lines below the heading, each ended by a newline. -/
  body : String
deriving DecidableEq, Repr, Inhabited

/-- Lines as a text, each ended by a newline. -/
def unlines (ls : List (List Char)) : List Char :=
  ls.flatMap (· ++ ['\n'])

/-- Puts one more line in front of what follows it: the lines that wait for a heading, and
the sections. -/
def consLine (line : List Char) (following : List (List Char) × List Section) :
    List (List Char) × List Section :=
  match headingVersion line with
  | some v => ([], ⟨String.ofList v, String.ofList (unlines following.1)⟩ :: following.2)
  | none => (line :: following.1, following.2)

/-- The lines before the first heading, and the sections. -/
def divide (ls : List (List Char)) : List (List Char) × List Section :=
  ls.foldr consLine ([], [])

@[simp] theorem divide_nil : divide [] = ([], []) := rfl

theorem divide_cons (line : List Char) (ls : List (List Char)) :
    divide (line :: ls) = consLine line (divide ls) := rfl

/-- The release sections of a document, in order. -/
def sections (text : String) : List Section :=
  (divide (lines text.toList)).2

/-- The sections that announce a deprecation, with their records. -/
def documentRecords (text : String) : List (String × List Record) :=
  (sections text).filterMap fun s =>
    match records s.body s.version with
    | [] => none
    | rs => some (s.version, rs)

end Deprecation.Changelog
