/-
# Parsing regular expressions

A pattern is parsed from left to right with a stack of the groups that are open.  Between
brackets there is a second parser of the same kind, whose stack holds the open brackets and
the operations that wait for their right side.

Each turn of either parser takes at least one character, so as many turns as the pattern has
characters are enough.
-/
import Deprecation.Regex.Ast.Scanner

namespace Deprecation.Regex.Parser

open Text Scanner

/-! ## Between brackets -/

/-- The class of ASCII characters with a name. -/
def asciiClassNamed (name : List Char) : Option AsciiClass :=
  if name = "alnum".toList then some .alnum
  else if name = "alpha".toList then some .alpha
  else if name = "ascii".toList then some .ascii
  else if name = "blank".toList then some .blank
  else if name = "cntrl".toList then some .cntrl
  else if name = "digit".toList then some .digit
  else if name = "graph".toList then some .graph
  else if name = "lower".toList then some .lower
  else if name = "print".toList then some .print
  else if name = "punct".toList then some .punct
  else if name = "space".toList then some .space
  else if name = "upper".toList then some .upper
  else if name = "word".toList then some .word
  else if name = "xdigit".toList then some .xdigit
  else none

/-- A class such as `[:alpha:]` or `[:^alpha:]`, given what follows its opening bracket; if
there is none, the bracket opens a set. -/
def asciiClass? (s : List Char) : Option (ClassAst × List Char) :=
  match s with
  | ':' :: s =>
    let (negated, s) := match s with
      | '^' :: s => (true, s)
      | _ => (false, s)
    match s.dropWhile (· ≠ ':') with
    | ':' :: ']' :: rest =>
      (asciiClassNamed (s.takeWhile (· ≠ ':'))).map fun c => (.ascii c negated, rest)
    | _ => none
  | _ => none

/-- What waits on the stack between brackets. -/
inductive ClassFrame where
  /-- An open bracket: the items around it, last first, and whether it is negated. -/
  | bracket (around : List ClassAst) (negated : Bool)
  /-- An operation and its left side. -/
  | op (o : SetOp) (left : ClassAst)

/-- The set of some items, last first, joined to the operation that waits for it. -/
def closeOp (items : List ClassAst) (stack : List ClassFrame) :
    ClassAst × List ClassFrame :=
  match stack with
  | .op o left :: stack => (.op o left (ClassAst.ofItems items.reverse), stack)
  | stack => (ClassAst.ofItems items.reverse, stack)

/-- The literal dashes at the start of a set, last first, and the rest. -/
def leadingDashes (x : Bool) (fuel : Nat) (items : List ClassAst) (s : List Char) :
    List ClassAst × List Char :=
  match fuel, s with
  | fuel + 1, '-' :: s => leadingDashes x fuel (.literal ⟨'-', false⟩ :: items) (skip x s)
  | _, s => (items, s)

/-- The start of a set, given what follows its opening bracket: whether it is negated, and the
literal dashes or bracket that it begins with. -/
def openSet (x : Bool) (s : List Char) : Bool × List ClassAst × List Char :=
  let s := skip x s
  let (negated, s) := match s with
    | '^' :: s => (true, skip x s)
    | s => (false, s)
  let (items, s) := leadingDashes x s.length [] s
  match items, s with
  | [], ']' :: s => (negated, [.literal ⟨']', false⟩], skip x s)
  | _, _ => (negated, items, s)

/-- A character or an escape between brackets, and the rest. -/
def setItem (x : Bool) : List Char → Option (Escape × List Char)
  | [] => none
  | '\\' :: s => escape x s
  | c :: s => some (.literal ⟨c, false⟩, s)

/-- An escape as an item of a set. -/
def itemOf : Escape → Option ClassAst
  | .literal l => some (.literal l)
  | .letter c negated => some (.letter c negated)
  | .unicode q negated => some (.unicode q negated)
  | .anchor _ => none

/-- The character that follows the one at the front.  A verbose pattern is searched for the
first character that is neither a blank nor the start of a comment. -/
def peekPast (x : Bool) (s : List Char) : Option Char :=
  let rest := s.drop 1
  if x then
    match rest.dropWhile isBlank with
    | '#' :: comment => (comment.dropWhile isBlank).head? <|> rest.head?
    | c :: _ => some c
    | [] => rest.head?
  else rest.head?

/-- An item or a range between brackets, and the rest. -/
def itemOrRange (x : Bool) (s : List Char) : Option (ClassAst × List Char) := do
  let (first, s) ← setItem x s
  let s := skip x s
  if s.isEmpty then none
  else if s.head? ≠ some '-' ∨ peekPast x s = some ']' ∨ peekPast x s = some '-' then
    let item ← itemOf first
    pure (item, s)
  else
    let (last, s) ← setItem x (advance x s)
    match first, last with
    | .literal low, .literal high =>
      if low.char ≤ high.char then pure (.range low high, s) else none
    | _, _ => none

/-- One turn between brackets: the finished class, or the items and the stack to go on with;
and the rest of the pattern. -/
def classTurn (x : Bool) (items : List ClassAst) (stack : List ClassFrame) (s : List Char) :
    Option ((ClassAst ⊕ (List ClassAst × List ClassFrame)) × List Char) :=
  match skip x s with
  | [] => none
  | '[' :: s =>
    match asciiClass? s with
    | some (item, rest) => some (.inr (item :: items, stack), rest)
    | none =>
      let (negated, inner, rest) := openSet x s
      some (.inr (inner, .bracket items negated :: stack), rest)
  | ']' :: s =>
    let (inside, stack) := closeOp items stack
    match stack with
    | .bracket _ negated :: [] => some (.inl (.bracket negated inside), s)
    | .bracket around negated :: stack =>
      some (.inr (.bracket negated inside :: around, stack), s)
    | _ => none
  | '&' :: '&' :: s =>
    let (left, stack) := closeOp items stack
    some (.inr ([], .op .inter left :: stack), s)
  | '-' :: '-' :: s =>
    let (left, stack) := closeOp items stack
    some (.inr ([], .op .diff left :: stack), s)
  | '~' :: '~' :: s =>
    let (left, stack) := closeOp items stack
    some (.inr ([], .op .symmDiff left :: stack), s)
  | s => (itemOrRange x s).map fun r => (.inr (r.1 :: items, stack), r.2)

/-- The turns between brackets. -/
def classTurns (x : Bool) :
    Nat → List ClassAst → List ClassFrame → List Char → Option (ClassAst × List Char)
  | 0, _, _, _ => none
  | fuel + 1, items, stack, s =>
    match classTurn x items stack s with
    | none => none
    | some (.inl c, rest) => some (c, rest)
    | some (.inr (items, stack), rest) => classTurns x fuel items stack rest

/-- A set, given what follows its opening bracket, and the rest. -/
def bracketed (x : Bool) (s : List Char) : Option (ClassAst × List Char) :=
  let (negated, items, rest) := openSet x s
  classTurns x (s.length + 1) items [.bracket [] negated] rest

/-! ## Groups and repetitions -/

/-- A group that is open: what stands around it, whether it captures, the flags inside it, and
whether the pattern around it is verbose. -/
structure Frame where
  branches : List Ast
  items : List Ast
  captures : Bool
  flags : Flags
  verbose : Bool

/-- What has been parsed: the open groups; the branches and the items of the innermost one,
last first; whether the pattern is verbose here; and the names of groups. -/
structure State where
  frames : List Frame := []
  branches : List Ast := []
  items : List Ast := []
  verbose : Bool := false
  names : List (List Char) := []

namespace State

/-- Adds an item. -/
def push (st : State) (a : Ast) : State := { st with items := a :: st.items }

/-- The value that flags give to the verbose flag, if they give one. -/
def verboseIn (st : State) (f : Flags) : Bool := (f.lookup .verbose).getD st.verbose

/-- Opens a group. -/
def openGroup (st : State) (captures : Bool) (f : Flags) : State :=
  { st with
    frames := ⟨st.branches, st.items, captures, f, st.verbose⟩ :: st.frames
    branches := []
    items := []
    verbose := st.verboseIn f }

/-- What is inside the innermost group. -/
def inside (st : State) : Ast :=
  Ast.ofBranches (Ast.ofItems st.items.reverse :: st.branches).reverse

/-- Closes the innermost group. -/
def closeGroup (st : State) : Option State :=
  match st.frames with
  | [] => none
  | f :: frames =>
    some { st with
      frames
      branches := f.branches
      items := .group f.captures f.flags st.inside :: f.items
      verbose := f.verbose }

/-- Begins a branch. -/
def nextBranch (st : State) : State :=
  { st with branches := Ast.ofItems st.items.reverse :: st.branches, items := [] }

/-- Repeats the last item. -/
def repeatLast (st : State) (min : Nat) (max : Option Nat) (greedy : Bool) : Option State :=
  match st.items with
  | [] | .flags _ :: _ | .empty :: _ => none
  | a :: items => some { st with items := .repeated min max greedy a :: items }

end State

/-- What follows an opening parenthesis up to the inside of the group, or flags for the rest
of the group around. -/
def startGroup (st : State) (s : List Char) : Option (State × List Char) :=
  match skip st.verbose s with
  | '?' :: '=' :: _ | '?' :: '!' :: _ | '?' :: '<' :: '=' :: _ | '?' :: '<' :: '!' :: _ => none
  | '?' :: 'P' :: '<' :: s | '?' :: '<' :: s => do
    let (name, s) ← groupName s
    if st.names.contains name then none
    else pure ({ st with names := name :: st.names }.openGroup true [], s)
  | '?' :: s => do
    let (f, last, s) ← flagsUntil true false [] s
    if last = ':' then pure (st.openGroup false f, s)
    else if f.isEmpty then none
    else pure ({ st.push (.flags f) with verbose := st.verboseIn f }, s)
  | s => some (st.openGroup true [], s)

/-- The count in braces after an item, given what follows the opening brace: the least and the
greatest number, and the rest after the closing brace. -/
def countRange (x : Bool) (s : List Char) : Option (Nat × Option Nat × List Char) := do
  let (low, s) ← decimal x (skip x s)
  match s with
  | ',' :: s =>
    let s := skip x s
    if s.head? = some '\x7d' then
      let low ← low
      pure (low, none, s.drop 1)
    else
      let low ← low
      let (high, s) ← decimal x s
      let high ← high
      if s.head? = some '\x7d' ∧ low ≤ high then pure (low, some high, s.drop 1) else none
  | '\x7d' :: s =>
    let low ← low
    pure (low, some low, s)
  | _ => none

/-- Whether a repetition is greedy, from what follows it, and the rest. -/
def greediness : List Char → Bool × List Char
  | '?' :: s => (false, s)
  | s => (true, s)

/-- A repetition of the last item, given what follows its sign. -/
def uncounted (st : State) (min : Nat) (max : Option Nat) (s : List Char) :
    Option (State × List Char) :=
  let (greedy, s) := greediness s
  (st.repeatLast min max greedy).map fun st => (st, s)

/-- A counted repetition of the last item, given what follows the opening brace. -/
def counted (st : State) (s : List Char) : Option (State × List Char) := do
  let (min, max, s) ← countRange st.verbose s
  let (greedy, s) := greediness (skip st.verbose s)
  let st ← st.repeatLast min max greedy
  pure (st, s)

/-- An escape as an item of an expression. -/
def astOf : Escape → Ast
  | .literal l => .literal l
  | .anchor a => .anchor a
  | .letter c negated => .letter c negated
  | .unicode q negated => .unicode q negated

/-- One turn, at a character of the pattern. -/
def turn (st : State) (c : Char) (s : List Char) : Option (State × List Char) :=
  if c = '(' then startGroup st s
  else if c = ')' then st.closeGroup.map fun st => (st, s)
  else if c = '|' then some (st.nextBranch, s)
  else if c = '[' then
    match bracketed st.verbose s with
    | some (.bracket negated inside, rest) => some (st.push (.bracket negated inside), rest)
    | _ => none
  else if c = '?' then uncounted st 0 (some 1) s
  else if c = '*' then uncounted st 0 none s
  else if c = '+' then uncounted st 1 none s
  else if c = '\x7b' then counted st s
  else if c = '\\' then (escape st.verbose s).map fun r => (st.push (astOf r.1), r.2)
  else if c = '.' then some (st.push .dot, s)
  else if c = '^' then some (st.push (.anchor .lineStart), s)
  else if c = '$' then some (st.push (.anchor .lineEnd), s)
  else some (st.push (.literal ⟨c, false⟩), s)

/-- The turns on a pattern. -/
def turns : Nat → State → List Char → Option State
  | fuel, st, s =>
    match fuel, skip st.verbose s with
    | _, [] => some st
    | 0, _ => none
    | fuel + 1, c :: rest =>
      match turn st c rest with
      | none => none
      | some (st, rest) => turns fuel st rest

end Parser

/-- How deep an expression may be nested. -/
def Ast.maxDepth : Nat := 250

/-- The expression that a pattern spells, if it is one. -/
def Ast.parse (pattern : List Char) : Option Ast := do
  let st ← Parser.turns pattern.length {} pattern
  if st.frames.isEmpty ∧ st.inside.depth ≤ maxDepth then pure st.inside else none

end Deprecation.Regex
