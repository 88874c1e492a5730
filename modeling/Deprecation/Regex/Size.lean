/-
# Sizes of expressions

An expression is refused if it would take too much memory.  What counts is the size of two
automata that read bytes, one for the expression and one for the expression read from its end:
so many bytes for each state, and some more for each range and each choice of a state.

The size depends only on the shape of the expression.  A repetition counts for as many copies
of its inside as it needs; counting stops where the limit is passed, since a size only grows.

Characters outside ASCII take several states, which the characters of one set share.  States
are found again in a table with a fixed number of slots, each of which keeps the latest state
only, so how much a set takes depends a little on the number of states before it.

A dictionary, which is a choice between thousands of words, is of any size.
-/
import Std.Data.HashMap
import Deprecation.Regex.Shape

namespace Deprecation.Regex

/-- The size of an automaton: its states, and the bytes that states take beside their own. -/
structure Size where
  states : Nat
  extra : Nat
deriving DecidableEq, Repr, Inhabited

namespace Size

/-- The bytes of an automaton. -/
def bytes (s : Size) : Nat := 32 * s.states + s.extra

/-- The most bytes that an automaton may take. -/
def limit : Nat := 10 * 1024 * 1024

/-- Whether an automaton keeps to the limit. -/
def fits (s : Size) : Bool := s.bytes ≤ limit

/-- The size with more states and bytes. -/
def plus (s : Size) (states extra : Nat) : Size := ⟨s.states + states, s.extra + extra⟩

end Size

/-! ## Sets -/

/-- A growing automaton with the states that may be found again: each by its slot, with its key
and its number. -/
structure Sharing where
  size : Size
  table : Std.HashMap Nat (List Nat × Nat)

namespace Sharing

/-- The slot of a key. -/
def slot (slots : Nat) (key : List Nat) : Nat :=
  let mix := fun (h : UInt64) (n : Nat) => (h ^^^ n.toUInt64) * 1099511628211
  (key.foldl mix 14695981039346656037).toNat % slots

/-- The number of the state with a key that a slot keeps. -/
def find? (i : Nat) (key : List Nat) (s : Sharing) : Option Nat :=
  (s.table[i]?).bind fun known => if known.1 = key then some known.2 else none

/-- The number of the state with a key; unless it is found, the state is added. -/
def state (slots : Nat) (key : List Nat) (extra : Nat) (s : Sharing) : Sharing × Nat :=
  let i := slot slots key
  match s.find? i key with
  | some n => (s, n)
  | none =>
    let ⟨size, table⟩ := s
    (⟨size.plus 1 extra, table.insert i (key, size.states)⟩, size.states)

/-- A state that is not complete: its edges up to now, each as its two bytes and its target,
and the bytes of the edge whose target is not complete. -/
structure Node where
  edges : List Nat
  last : ByteRange

/-- The edges of a node, the last one with its target. -/
def Node.closed (node : Node) (target : Nat) : List Nat :=
  node.edges ++ [node.last.1, node.last.2, target]

/-- Completes the nodes on a path; gives the state of the first one. -/
def complete (target : Nat) : List Node → Sharing → Sharing × Nat
  | [], s => (s, target)
  | node :: deeper, s =>
    let (s, next) := complete target deeper s
    let key := node.closed next
    s.state 10000 key (8 * (key.length / 3))

/-- Adds a sequence of bytes to a path. -/
def extend (target : Nat) : List Node → List ByteRange → Sharing → Sharing × List Node
  | node :: deeper, r :: rest, s =>
    if node.last = r then
      let (s, path) := extend target deeper rest s
      (s, node :: path)
    else
      let (s, next) := complete target deeper s
      (s, ⟨node.closed next, r⟩ :: rest.map (⟨[], ·⟩))
  | _, rest, s => (s, rest.map (⟨[], ·⟩))

/-- Adds the states of sequences that are read forward: those that begin alike share their
first states, and states that go on alike are one. -/
def forward (qs : List (List ByteRange)) (size : Size) : Size :=
  let target := size.states
  let step := fun (s : Sharing × List Node) q => extend target s.2 q s.1
  let (s, path) := qs.foldl step (⟨size.plus 1 0, ∅⟩, [])
  (complete target path s).1.size

/-- Adds the states of one sequence that is read backward. -/
def readBackward (target : Nat) (q : List ByteRange) (s : Sharing) : Sharing :=
  let step := fun (s : Sharing × Nat) (r : ByteRange) => s.1.state 1000 [s.2, r.1, r.2] 0
  (q.foldl step (s, target)).1

/-- Adds the states of sequences that are read backward: those that begin alike share their
first states. -/
def backward (qs : List (List ByteRange)) (size : Size) : Size :=
  let target := size.states + 1
  let s := qs.foldl (fun s q => readBackward target q s) ⟨size.plus 2 0, ∅⟩
  s.size.plus 0 (4 * qs.length)

end Sharing

/-! ## Words -/

/-- A list of words up to each empty one, and from the last empty one. -/
def stretches : List (List Nat) → List (List (List Nat))
  | [] => [[]]
  | w :: rest =>
    match w, stretches rest with
    | [], done => [] :: done
    | w, s :: done => (w :: s) :: done
    | w, [] => [[w]]

/-- How often a word ends at the start of some words; empty words at the front count once. -/
def endings (words : List (List Nat)) : Nat :=
  let later := (words.dropWhile (·.isEmpty)).countP (·.isEmpty)
  if words.head?.any (·.isEmpty) then later + 1 else later

/-- What follows a byte in some words. -/
def following (b : Nat) (words : List (List Nat)) : List (List Nat) :=
  words.filterMap fun w => if w.head? = some b then some w.tail else none

namespace Size

/-- Adds the states of a choice between words of at most a length.  Words that begin alike
share their first states, but only up to a word that ends there. -/
def words : Nat → List (List Nat) → Size → Size
  | 0, _, s => s
  | length + 1, ws, s =>
    if ws.all (·.isEmpty) then s
    else
      let groups := (stretches ws).filter fun g => !g.isEmpty
      let s := s.plus 1 (4 * (groups.length + endings ws))
      groups.foldl
        (fun s g =>
          let bytes := (g.filterMap List.head?).eraseDups
          let s := s.plus 1 (if bytes.length = 1 then 0 else 8 * bytes.length)
          bytes.foldl (fun s b => words length (following b g) s) s)
        s

end Size

/-! ## Expressions -/

/-- An automaton to which more is to be added; `isOpen` says that it ends with a choice, which
takes what comes next as one more of its options. -/
structure Stage where
  size : Size
  isOpen : Bool := false
deriving Repr, Inhabited

namespace Stage

/-- The size after what comes next has been attached. -/
def attached (a : Stage) : Size := if a.isOpen then a.size.plus 0 4 else a.size

/-- Adds copies one after another, as long as they fit. -/
def copies (grow : Size → Stage) : Nat → Stage → Stage
  | 0, a => a
  | n + 1, a => if a.size.fits then copies grow n (grow a.attached) else a

/-- Adds copies one after another; no copy at all takes a state too. -/
def times (grow : Size → Stage) : Nat → Size → Stage
  | 0, s => ⟨s.plus 1 0, false⟩
  | n + 1, s => copies grow n (grow s)

/-- Adds copies one after another, each of which may be the first that is left out, as long as
they fit. -/
def options (grow : Size → Stage) : Nat → Stage → Stage
  | 0, a => a
  | n + 1, a =>
    if a.size.fits then options grow n (grow (a.attached.plus 1 8)) else a

/-- Adds a repetition; `takes` says that its inside always takes a character. -/
def repeated (grow : Size → Stage) (takes : Bool) (min : Nat) (max : Option Nat) (s : Size) :
    Stage :=
  match min, max with
  | 0, none =>
    if takes then ⟨(grow (s.plus 1 0)).attached.plus 0 4, true⟩
    else ⟨(grow s).attached.plus 3 16, false⟩
  | 1, none => ⟨(grow s).attached.plus 1 4, true⟩
  | n + 2, none => ⟨(grow (times grow (n + 1) s).attached).attached.plus 1 4, true⟩
  | 0, some 1 => ⟨(grow (s.plus 1 0)).attached.plus 1 8, false⟩
  | min, some max =>
    if min = max then times grow min s
    else
      let a : Stage := ⟨(times grow min s).attached.plus 1 0, false⟩
      ⟨(options grow (max - min) a).attached, false⟩

end Stage

/-- The bytes of a literal in the order in which they are read. -/
def literalBytes (isBackward : Bool) (codes : List Nat) : List Nat :=
  codes.flatMap fun n => if isBackward then (utf8 n).reverse else utf8 n

/-- Adds the states of a set. -/
def Size.set (isBackward : Bool) (r : Text.Ranges) (s : Size) : Size :=
  if r.all fun p => p.2 < 0x80 then s.plus 2 (8 * r.length)
  else
    let qs := r.flatMap fun p => sequences p.1 p.2
    if isBackward then Sharing.backward qs s else Sharing.forward qs s

namespace Shape

mutual

/-- Adds the states of a shape to an automaton. -/
def grow (isBackward : Bool) : Shape → Size → Stage
  | empty, s | look _, s => ⟨s.plus 1 0, false⟩
  | literal codes, s => ⟨s.plus (literalBytes isBackward codes).length 0, false⟩
  | set r, s => ⟨s.set isBackward r, false⟩
  | rep min max _ a, s =>
    Stage.repeated (grow isBackward a) ((takes a).getD false) min max s
  | group a, s =>
    if isBackward then grow isBackward a s
    else ⟨(grow isBackward a (s.plus 1 0)).attached.plus 1 0, false⟩
  | seq [], s => ⟨s.plus 1 0, false⟩
  | seq (a :: as), s => growOn isBackward as (grow isBackward a s)
  | alt as, s =>
    match as.mapM literal? with
    | some codes =>
      let words := codes.map (literalBytes isBackward)
      ⟨(s.plus 1 0).words ((words.map List.length).foldl max 0) words, false⟩
    | none => ⟨growBranches isBackward as s, false⟩

/-- Adds the states of more items of a sequence. -/
def growOn (isBackward : Bool) : List Shape → Stage → Stage
  | [], a => a
  | b :: bs, a => growOn isBackward bs (grow isBackward b a.attached)

/-- Adds the states of the branches of a choice: the first two, the choice and its end, and
then all others. -/
def growBranches (isBackward : Bool) : List Shape → Size → Size
  | [], s => s.plus 2 0
  | [a], s => (grow isBackward a s).attached.plus 2 4
  | a :: b :: as, s =>
    let s := (grow isBackward a s).attached
    growOthers isBackward as ((grow isBackward b s).attached.plus 2 8)

/-- Adds the states of more branches of a choice. -/
def growOthers (isBackward : Bool) : List Shape → Size → Size
  | [], s => s
  | a :: as, s => growOthers isBackward as ((grow isBackward a s).attached.plus 0 4)

end

/-- The size of an automaton that finds a shape, read forward or backward. -/
def size (isBackward : Bool) (a : Shape) : Size :=
  let start : Size :=
    if a.beginsWith (if isBackward then .textEnd else .textStart) then ⟨1, 0⟩ else ⟨3, 16⟩
  if isBackward then (a.grow true start).attached.plus 1 0
  else (a.grow false (start.plus 1 0)).attached.plus 2 0

/-- Whether a shape is a dictionary: a choice between so many words that they are looked for
without such an automaton. -/
def isDictionary : Shape → Bool
  | alt as => 3000 ≤ as.length && (as.mapM literal?).isSome
  | _ => false

end Shape

/-- Whether an expression is a dictionary, or keeps to the limit read forward and read from its
end. -/
def Expr.fits (e : Expr) : Bool :=
  let a := Shape.ofExpr e
  a.isDictionary || (a.size false).fits && (a.reversed.size true).fits

end Deprecation.Regex
