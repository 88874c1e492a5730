/-
# Programs of regular expressions

An expression is compiled to a program: a list of states, each of which takes a character,
tests a condition, chooses between two states, or accepts.  States refer to each other by
their place in the program.

A program is compiled from its end.  The state to go on with is made first, so a state refers
to states before it; only loops refer forward, to the place that was kept for their choice.

A loop whose body may match the empty text is entered through a choice of its own.  With this,
leaving the loop is never preferred to another turn merely because an earlier turn came by the
same place in the text.
-/
import Deprecation.Regex.Expr

namespace Deprecation.Regex

/-- A state of a program. -/
inductive Instr where
  /-- The match is complete. -/
  | accept
  /-- Takes a character of a set. -/
  | char (s : CharSet) (next : Nat)
  /-- Tests a condition. -/
  | look (l : Look) (next : Nat)
  /-- Goes on with either state, the first preferred. -/
  | split (first second : Nat)
deriving Repr, Inhabited

/-- A program, and the state that it starts in. -/
structure Program where
  code : Array Instr
  entry : Nat
deriving Repr, Inhabited

namespace Program

/-- The code with one more state, and the place of that state. -/
def emit (code : Array Instr) (i : Instr) : Array Instr × Nat :=
  let place := code.size
  (code.push i, place)

/-- A choice between one more turn and going on. -/
def fork (greedy : Bool) (body next : Nat) : Instr :=
  if greedy then .split body next else .split next body

/-- Applies a step that adds code in front of a state so many times. -/
def iterate (step : Array Instr → Nat → Array Instr × Nat) :
    Nat → Array Instr → Nat → Array Instr × Nat
  | 0, code, next => (code, next)
  | n + 1, code, next =>
    let (code, next) := step code next
    iterate step n code next

/-- Adds the code of an expression in front of the state `next`; gives the code and the state
that the expression starts in. -/
def compileInto : Expr → Array Instr → Nat → Array Instr × Nat
  | .empty, code, next => (code, next)
  | .set s, code, next => emit code (.char s next)
  | .look l, code, next => emit code (.look l next)
  | .seq a b, code, next =>
    let (code, start) := compileInto b code next
    compileInto a code start
  | .alt a b, code, next =>
    let (code, second) := compileInto b code next
    let (code, first) := compileInto a code next
    emit code (.split first second)
  | .group _ a, code, next => compileInto a code next
  | .rep min (some max) greedy a, code, next =>
    let optional := fun code start =>
      let (code, body) := compileInto a code start
      emit code (fork greedy body next)
    let (code, start) := iterate optional (max - min) code next
    iterate (compileInto a) min code start
  | .rep min none greedy a, code, next =>
    let loop := code.size
    let (code, body) := compileInto a (code.push (.split next next)) loop
    let code := code.setIfInBounds loop (fork greedy body next)
    match min with
    | 0 => if a.nullable then emit code (fork greedy body next) else (code, loop)
    | n + 1 => iterate (compileInto a) n code body

/-- The program of an expression. -/
def ofExpr (e : Expr) : Program :=
  let (code, entry) := compileInto e #[.accept] 0
  ⟨code, entry⟩

end Program

end Deprecation.Regex
