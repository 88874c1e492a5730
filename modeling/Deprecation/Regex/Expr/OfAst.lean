/-
# From syntax to expressions

Flags are applied from left to right: flags without a group hold to the end of the group
around them, through all its later branches.  Classes become sets of characters, and names of
Unicode classes are looked up.

Without the Unicode flag a class means bytes.  Since a match never splits a character, such a
class must stay within ASCII, so it cannot be negated.
-/
import Deprecation.Regex.Ast
import Deprecation.Regex.Expr
import Deprecation.Unicode.Age
import Deprecation.Unicode.Break
import Deprecation.Unicode.ScriptExtension

namespace Deprecation.Regex

open Text

/-! ## Classes by name -/

/-- A name of a Unicode class in its normal form: small ASCII letters, without spaces,
hyphens, underscores, and a leading `is`.  The name `isc` stays as it is. -/
def normalName (name : List Char) : List Char :=
  let isPrefixed := (name.take 2).map Char.toLower = "is".toList
  let kept := (if isPrefixed then name.drop 2 else name).filter fun c =>
    c.toNat < 0x80 && c ≠ ' ' && c ≠ '_' && c ≠ '-'
  let kept := kept.map Char.toLower
  if isPrefixed ∧ kept = ['c'] then "isc".toList else kept

/-- The union of tables. -/
def tables (ts : List Ranges) : CharSet := CharSet.unions (ts.map .table)

/-- The set of a general category. -/
def categorySet (name : String) : Option CharSet :=
  if name = "any" then some (.compl .none)
  else if name = "assigned" then (Unicode.category? "cn").map fun ts => .compl (tables ts)
  else if name = "ascii" then some (.range 0 0x7F)
  else if name = "nd" ∨ name = "decimalnumber" ∨ name = "digit" then some .digit
  else (Unicode.category? name).map tables

/-- The set that a single name stands for.  Three abbreviations of properties are
abbreviations of categories too, and mean the categories. -/
def namedSet (name : String) : Option CharSet :=
  let property := if name = "cf" ∨ name = "sc" ∨ name = "lc" then none
    else (Unicode.property? name).map CharSet.table
  property <|> categorySet name <|> (Unicode.script? name).map CharSet.table

/-- The set that a property and a value stand for. -/
def valuedSet (property value : String) : Option CharSet :=
  if property = "gc" ∨ property = "generalcategory" then categorySet value
  else if property = "sc" ∨ property = "script" then (Unicode.script? value).map .table
  else if property = "scx" ∨ property = "scriptextensions" then
    (Unicode.scriptExtension? value).map .table
  else if property = "age" then (Unicode.age? value).map .table
  else if property = "gcb" ∨ property = "graphemeclusterbreak" then
    (Unicode.GraphemeBreak.named value).map fun b => .table b.ranges
  else if property = "wb" ∨ property = "wordbreak" then
    (Unicode.WordBreak.named value).map fun b => .table b.ranges
  else if property = "sb" ∨ property = "sentencebreak" then
    (Unicode.SentenceBreak.named value).map fun b => .table b.ranges
  else none

/-- The set that is asked for. -/
def UnicodeQuery.set : UnicodeQuery → Option CharSet
  | named name => namedSet (String.ofList (normalName name))
  | valued p v =>
    valuedSet (String.ofList (normalName p)) (String.ofList (normalName v))

/-- A set of ranges given by their first and last characters. -/
def charRanges (rs : List (Char × Char)) : CharSet :=
  CharSet.unions (rs.map fun r => .range r.1.toNat r.2.toNat)

/-- The set of a class of ASCII characters. -/
def AsciiClass.set : AsciiClass → CharSet
  | alnum => charRanges [('0', '9'), ('A', 'Z'), ('a', 'z')]
  | alpha => charRanges [('A', 'Z'), ('a', 'z')]
  | ascii => .range 0 0x7F
  | blank => charRanges [('\t', '\t'), (' ', ' ')]
  | cntrl => .union (.range 0 0x1F) (.range 0x7F 0x7F)
  | digit => charRanges [('0', '9')]
  | graph => charRanges [('!', '~')]
  | lower => charRanges [('a', 'z')]
  | print => charRanges [(' ', '~')]
  | punct => charRanges [('!', '/'), (':', '@'), ('[', '\x60'), ('\x7b', '~')]
  | space => charRanges [('\t', '\r'), (' ', ' ')]
  | upper => charRanges [('A', 'Z')]
  | word => charRanges [('0', '9'), ('A', 'Z'), ('_', '_'), ('a', 'z')]
  | xdigit => charRanges [('0', '9'), ('A', 'F'), ('a', 'f')]

/-- The set of a class named by a letter. -/
def LetterClass.set (unicode : Bool) : LetterClass → CharSet
  | .digit => if unicode then .digit else AsciiClass.set .digit
  | .space => if unicode then .blank else AsciiClass.set .space
  | .word => if unicode then .word else AsciiClass.set .word

/-! ## Flags -/

/-- The flags that change what an expression means. -/
structure Mode where
  ignoreCase : Bool := false
  multiLine : Bool := false
  dotAll : Bool := false
  swapGreed : Bool := false
  unicode : Bool := true
  crlf : Bool := false
deriving DecidableEq, Repr, Inhabited

namespace Mode

/-- The mode with one flag switched. -/
def switch (m : Mode) : Flag × Bool → Mode
  | (.ignoreCase, b) => { m with ignoreCase := b }
  | (.multiLine, b) => { m with multiLine := b }
  | (.dotAll, b) => { m with dotAll := b }
  | (.swapGreed, b) => { m with swapGreed := b }
  | (.unicode, b) => { m with unicode := b }
  | (.crlf, b) => { m with crlf := b }
  | (.verbose, _) => m

/-- The mode with flags switched. -/
def apply (m : Mode) (f : Flags) : Mode := f.foldl switch m

/-- A set as a class shows it: closed under case if case makes no difference, and then
perhaps negated, which needs Unicode. -/
def close (m : Mode) (negated : Bool) (s : CharSet) : Option CharSet :=
  let s := if m.ignoreCase then s.fold m.unicode else s
  if negated then (if m.unicode then some (.compl s) else none) else some s

/-- A set of a class named by a letter. -/
def letterSet (m : Mode) (c : LetterClass) (negated : Bool) : Option CharSet :=
  let s := c.set m.unicode
  if negated then (if m.unicode then some (.compl s) else none) else some s

/-- A class of Unicode characters, which needs Unicode. -/
def unicodeSet (m : Mode) (q : UnicodeQuery) (negated : Bool) : Option CharSet :=
  if m.unicode then q.set >>= m.close negated else none

/-- The code point of a literal between brackets; without Unicode it must be ASCII. -/
def classCode (m : Mode) (l : Literal) : Option Nat :=
  if m.unicode ∨ l.char.toNat < 0x80 then some l.char.toNat else none

/-- Two sets joined by an operation. -/
def join (m : Mode) (o : SetOp) (a b : CharSet) : CharSet :=
  let a := if m.ignoreCase then a.fold m.unicode else a
  let b := if m.ignoreCase then b.fold m.unicode else b
  match o with
  | .inter => .inter a b
  | .diff => .diff a b
  | .symmDiff => .symmDiff a b

mutual

/-- The set that stands between brackets. -/
def classSet (m : Mode) : ClassAst → Option CharSet
  | .literal l => do
    let n ← m.classCode l
    pure (.range n n)
  | .range low high => do
    let a ← m.classCode low
    let b ← m.classCode high
    pure (.range a b)
  | .ascii c negated => m.close negated c.set
  | .letter c negated => m.letterSet c negated
  | .unicode q negated => m.unicodeSet q negated
  | .bracket negated inside => m.classSet inside >>= m.close negated
  | .union items => m.classSets items
  | .op o left right => do
    let a ← m.classSet left
    let b ← m.classSet right
    pure (m.join o a b)

/-- The union of the sets of some items. -/
def classSets (m : Mode) : List ClassAst → Option CharSet
  | [] => some .none
  | a :: rest => do
    let s ← m.classSet a
    let t ← m.classSets rest
    pure (.union s t)

end

/-- The condition of an anchor. -/
def look (m : Mode) : Anchor → Look
  | .lineStart =>
    if m.multiLine then (if m.crlf then .lineStartCrlf else .lineStart) else .textStart
  | .lineEnd => if m.multiLine then (if m.crlf then .lineEndCrlf else .lineEnd) else .textEnd
  | .textStart => .textStart
  | .textEnd => .textEnd
  | .wordBoundary => .wordBoundary m.unicode
  | .notWordBoundary => .notWordBoundary m.unicode
  | .wordStart => .wordStart m.unicode
  | .wordEnd => .wordEnd m.unicode
  | .wordStartHalf => .wordStartHalf m.unicode
  | .wordEndHalf => .wordEndHalf m.unicode

/-- The expression of a literal.  A byte that is no ASCII character is part of no text. -/
def literal (m : Mode) (l : Literal) : Option Expr :=
  if !m.unicode && l.isByte && 0x80 ≤ l.char.toNat then none
  else
    let s := CharSet.single l.char
    if m.ignoreCase ∧ (m.unicode ∨ l.char.toNat < 0x80) then some (.set (s.fold m.unicode))
    else some (.set s)

/-- The set of the dot, which needs Unicode. -/
def dotSet (m : Mode) : Option CharSet :=
  if !m.unicode then none
  else if m.dotAll then some (.compl .none)
  else if m.crlf then some (.compl (.union (CharSet.single '\n') (CharSet.single '\r')))
  else some (.compl (CharSet.single '\n'))

end Mode

/-! ## Expressions -/

mutual

/-- The expression of a syntax tree in a mode, and the mode that follows it. -/
def Ast.expr (m : Mode) : Ast → Option (Expr × Mode)
  | .empty => some (.empty, m)
  | .flags f => some (.empty, m.apply f)
  | .literal l => (m.literal l).map fun e => (e, m)
  | .dot => m.dotSet.map fun s => (.set s, m)
  | .anchor a => some (.look (m.look a), m)
  | .letter c negated => (m.letterSet c negated).map fun s => (.set s, m)
  | .unicode q negated => (m.unicodeSet q negated).map fun s => (.set s, m)
  | .bracket negated inside =>
    (m.classSet inside >>= m.close negated).map fun s => (.set s, m)
  | .repeated min max greedy a => do
    let (e, m) ← Ast.expr m a
    pure (.repeated min max (greedy != m.swapGreed) e, m)
  | .group captures f a => do
    let (e, _) ← Ast.expr (m.apply f) a
    pure (.group captures e, m)
  | .alternatives branches => do
    let (es, m) ← exprs m branches
    pure (Expr.choice es, m)
  | .sequence items => do
    let (es, m) ← exprs m items
    pure (Expr.sequence es, m)

/-- The expressions of trees one after another. -/
def exprs (m : Mode) : List Ast → Option (List Expr × Mode)
  | [] => some ([], m)
  | a :: rest => do
    let (e, m) ← Ast.expr m a
    let (es, m) ← exprs m rest
    pure (e :: es, m)

end

end Deprecation.Regex
