/-
# Shapes of expressions

What an expression costs depends on its *shape*: neighbouring characters in a sequence count
as one literal, branches of a choice that are single characters or sets count as one set, and
a beginning that all branches of a choice share counts once.
-/
import Deprecation.Regex.ByteSequence
import Deprecation.Regex.Expr

namespace Deprecation.Regex

open Text

/-- The shape of an expression. -/
inductive Shape where
  | empty
  /-- Characters one after another, by their code points. -/
  | literal (codes : List Nat)
  /-- One character of a set, or none at all. -/
  | set (r : Ranges)
  | look (l : Look)
  | rep (min : Nat) (max : Option Nat) (greedy : Bool) (a : Shape)
  /-- A group that captures. -/
  | group (a : Shape)
  | seq (items : List Shape)
  | alt (branches : List Shape)
deriving Repr, Inhabited

namespace Shape

mutual

/-- Whether two shapes are the same.  No two groups are. -/
def same : Shape → Shape → Bool
  | empty, empty => true
  | literal a, literal b => a == b
  | set r, set s => r == s
  | look k, look l => k == l
  | rep low high greedy a, rep low' high' greedy' b =>
    low == low' && high == high' && greedy == greedy' && same a b
  | seq as, seq bs => sameAll as bs
  | alt as, alt bs => sameAll as bs
  | _, _ => false

/-- Whether two lists hold the same shapes. -/
def sameAll : List Shape → List Shape → Bool
  | [], [] => true
  | a :: as, b :: bs => same a b && sameAll as bs
  | _, _ => false

end

/-! ## Sequences and choices -/

/-- A set; a single character is a literal. -/
def ofRanges (r : Ranges) : Shape :=
  match r with
  | [(low, high)] => if low = high then literal [low] else set r
  | _ => set r

/-- What a shape puts into a sequence. -/
def items : Shape → List Shape
  | empty => []
  | seq as => as
  | a => [a]

/-- Puts a shape in front of a sequence. -/
def before : Shape → List Shape → List Shape
  | literal a, literal b :: rest => literal (a ++ b) :: rest
  | a, rest => a :: rest

/-- The sequence of some shapes. -/
def sequence (as : List Shape) : Shape :=
  match (as.flatMap items).foldr before [] with
  | [] => empty
  | [a] => a
  | as => seq as

/-- What a shape puts into a choice. -/
def choices : Shape → List Shape
  | alt as => as
  | a => [a]

/-- The character that a shape is. -/
def character? : Shape → Option Nat
  | literal [n] => some n
  | _ => none

/-- The characters of a literal. -/
def literal? : Shape → Option (List Nat)
  | literal codes => some codes
  | _ => none

/-- The set that a shape is. -/
def ranges? : Shape → Option Ranges
  | set r => some r
  | _ => none

/-- The items of a sequence. -/
def sequence? : Shape → Option (List Shape)
  | seq as => some as
  | _ => none

/-- The choice between some shapes, unless they are one set. -/
def choice (as : List Shape) : Shape :=
  match as with
  | [a] => a
  | _ =>
    match as.mapM character?, as.mapM ranges? with
    | some codes, _ => ofRanges (Ranges.normal (codes.map fun n => (n, n)))
    | none, some tables => ofRanges (Ranges.normal tables.flatten)
    | none, none => alt as

/-- How many shapes two lists begin with that are the same. -/
def shared : List Shape → List Shape → Nat
  | a :: as, b :: bs => if same a b then shared as bs + 1 else 0
  | _, _ => 0

/-- The choice between some shapes.  A beginning that they share stands before it. -/
def alternation (as : List Shape) : Shape :=
  let as := as.flatMap choices
  match as.mapM sequence? with
  | some (first :: second :: others) =>
    let n := (second :: others).foldl (fun n other => min n (shared first other)) first.length
    if n = 0 then choice as
    else
      let rests := (first :: second :: others).map fun s => sequence (s.drop n)
      sequence (first.take n ++ [choice (rests.flatMap choices)])
  | _ => choice as

/-- The branches of an expression.  A choice stands to the right in a choice only where it
goes on with it. -/
def branches : Expr → List Shape
  | .empty => [empty]
  | .set s => [ofRanges s.ranges]
  | .look l => [look l]
  | .seq a b => [sequence [alternation (branches a), alternation (branches b)]]
  | .alt a b => alternation (branches a) :: branches b
  | .rep low high greedy a => [rep low high greedy (alternation (branches a))]
  | .group true a => [group (alternation (branches a))]
  | .group false a => [alternation (branches a)]

/-- The shape of an expression. -/
def ofExpr (e : Expr) : Shape := alternation (branches e)

/-! ## Properties -/

mutual

/-- Whether a shape always takes a character, if it matches at all; `none` if it may be that
it never matches. -/
def takes : Shape → Option Bool
  | empty | look _ => some false
  | literal _ => some true
  | set r => if r.isEmpty then none else some true
  | rep low _ _ a => (takes a).map fun t => t && low != 0
  | group a => takes a
  | seq as => someTakes as
  | alt as => allTake as

/-- Whether some item of a sequence takes a character. -/
def someTakes : List Shape → Option Bool
  | [] => some false
  | a :: as => do
    let t ← takes a
    let u ← someTakes as
    pure (t || u)

/-- Whether all branches of a choice take a character. -/
def allTake : List Shape → Option Bool
  | [] => some true
  | a :: as => do
    let t ← takes a
    let u ← allTake as
    pure (t && u)

end

mutual

/-- Whether a shape takes no character. -/
def takesNothing : Shape → Bool
  | empty | look _ => true
  | literal _ | set _ => false
  | rep _ _ _ a | group a => takesNothing a
  | seq as | alt as => allTakeNothing as

/-- Whether all of some shapes take no character. -/
def allTakeNothing : List Shape → Bool
  | [] => true
  | a :: as => takesNothing a && allTakeNothing as

end

mutual

/-- Whether a shape begins with a condition. -/
def beginsWith (l : Look) : Shape → Bool
  | look k => k == l
  | rep low _ _ a => low != 0 && beginsWith l a
  | group a => beginsWith l a
  | seq as => firstBeginsWith l as
  | alt as => allBeginWith l as
  | _ => false

/-- Whether a sequence begins with a condition. -/
def firstBeginsWith (l : Look) : List Shape → Bool
  | [] => false
  | a :: as => beginsWith l a || (takesNothing a && firstBeginsWith l as)

/-- Whether all branches of a choice begin with a condition. -/
def allBeginWith (l : Look) : List Shape → Bool
  | [] => true
  | a :: as => beginsWith l a && allBeginWith l as

end

mutual

/-- The shape read from its end. -/
def reversed : Shape → Shape
  | literal codes => literal codes.reverse
  | rep low high greedy a => rep low high greedy (reversed a)
  | group a => group (reversed a)
  | seq as => seq (allReversed as).reverse
  | alt as => alt (allReversed as)
  | a => a

/-- Shapes read from their ends. -/
def allReversed : List Shape → List Shape
  | [] => []
  | a :: as => reversed a :: allReversed as

end

end Shape

end Deprecation.Regex
