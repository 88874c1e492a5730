/-
# Searching

A program is run on a text in one pass.  At every place the search knows its *threads*: the
states that wait for the next character, each with the place where its match began, in order
of preference.  Earlier beginnings are preferred to later ones, and among matches with one
beginning the choices of the program decide.

At a place, choices and conditions are followed until each thread waits for a character or
accepts.  No state is visited twice at one place, since whatever a second visit could lead to
has been found, with preference, by the first.  A thread that accepts gives the match found so
far and ends all threads after it.

Places are counted in characters.
-/
import Deprecation.Regex.Program

namespace Deprecation.Regex

/-- A match: the text between two places. -/
structure Span where
  start : Nat
  stop : Nat
deriving DecidableEq, Repr, Inhabited

namespace Search

/-- A state at some place in the text, with the place where its match began. -/
structure Thread where
  state : Nat
  start : Nat
deriving DecidableEq, Repr, Inhabited

/-- What a thread comes to at its place: it accepts, or it takes a character and goes on. -/
inductive Leaf where
  | accept (start : Nat)
  | char (s : CharSet) (next : Nat) (start : Nat)
deriving Repr, Inhabited

/-- How many states have not been visited. -/
def unseen (seen : Array Bool) : Nat := seen.count false

theorem unseen_setIfInBounds_lt {seen : Array Bool} {i : Nat}
    (h : seen[i]? = some false) : unseen (seen.setIfInBounds i true) < unseen seen := by
  obtain ⟨hi, hf⟩ := Array.getElem?_eq_some_iff.mp h
  have hmem : false ∈ seen := hf ▸ Array.getElem_mem hi
  have hpos : 0 < seen.count false := Array.count_pos_iff.mpr hmem
  rw [unseen, unseen, Array.setIfInBounds_def, dif_pos hi, Array.count_set hi, hf]
  simp
  omega

/-- Follows threads to their leaves, in order, after those found so far.  `before` and `after`
are the characters around the place, and `seen` tells the states visited there. -/
def follow (code : Array Instr) (before after : Option Char) (threads : List Thread)
    (seen : Array Bool) (leaves : Array Leaf) : Array Leaf :=
  match threads with
  | [] => leaves
  | t :: rest =>
    if h : seen[t.state]? = some false then
      have := unseen_setIfInBounds_lt h
      let seen := seen.setIfInBounds t.state true
      match code[t.state]? with
      | some .accept => leaves.push (.accept t.start)
      | some (.char s next) =>
        follow code before after rest seen (leaves.push (.char s next t.start))
      | some (.look l next) =>
        if l.holds before after then
          follow code before after (⟨next, t.start⟩ :: rest) seen leaves
        else follow code before after rest seen leaves
      | some (.split first second) =>
        follow code before after (⟨first, t.start⟩ :: ⟨second, t.start⟩ :: rest) seen leaves
      | none => follow code before after rest seen leaves
    else follow code before after rest seen leaves
termination_by (unseen seen, threads.length)

/-- Leaves found before stay in front. -/
theorem follow_append (code : Array Instr) (before after : Option Char)
    (threads : List Thread) (seen : Array Bool) (found leaves : Array Leaf) :
    follow code before after threads seen (found ++ leaves) =
      found ++ follow code before after threads seen leaves := by
  fun_induction follow code before after threads seen leaves with
  | case1 => rw [follow]
  | case2 => simp [follow, *]
  | case3 _ _ _ _ h _ _ _ _ hc ih =>
    rw [follow, dif_pos h, ← ih]
    simp only [hc, Array.push_append]
    rfl
  | case4 _ _ _ _ h _ _ _ _ hc hl ih | case5 _ _ _ _ h _ _ _ _ hc hl ih =>
    rw [follow, dif_pos h, ← ih]
    simp only [hc, hl]
    rfl
  | case6 _ _ _ _ h _ _ _ _ hc ih | case7 _ _ _ _ h _ _ hc ih =>
    rw [follow, dif_pos h, ← ih]
    simp only [hc]
    rfl
  | case8 _ _ _ _ h ih => rw [follow, dif_neg h, ih]

/-- The threads that go on with a character. -/
def take (c : Char) (leaves : List Leaf) : List Thread :=
  leaves.filterMap fun
    | .char s next start => if s.has c then some ⟨next, start⟩ else none
    | .accept _ => none

/-- Where a match began that some leaf accepts. -/
def accepted (leaves : List Leaf) : Option Nat :=
  leaves.findSome? fun
    | .accept start => some start
    | .char .. => none

/-- Goes through the text from a place on.  `found` is the match that the threads are
preferred to; as long as there is none, a match may also begin at the place. -/
def run (p : Program) (before : Option Char) (place : Nat) (threads : List Thread)
    (found : Option Span) (rest : List Char) : Option Span :=
  let threads := if found.isNone then threads ++ [⟨p.entry, place⟩] else threads
  let seen := Array.replicate p.code.size false
  let leaves := (follow p.code before rest.head? threads seen #[]).toList
  let found := match accepted leaves with
    | some start => some ⟨start, place⟩
    | none => found
  match rest with
  | [] => found
  | c :: rest =>
    let threads := take c leaves
    if threads.isEmpty && found.isSome then found
    else run p (some c) (place + 1) threads found rest

/-- The first match at or after a place; `before` is the character before the place. -/
def find (p : Program) (before : Option Char) (place : Nat) (rest : List Char) :
    Option Span :=
  run p before place [] none rest

/-- The last character of a list, or else a given one. -/
def lastOr (before : Option Char) (taken : List Char) : Option Char :=
  taken.getLast? <|> before

/-- The matches at or after a place, from left to right, without overlap.  Right behind a
match an empty match does not count; `fresh` says that the place is behind no match. -/
def findAll (p : Program) (before : Option Char) (place : Nat) (fresh : Bool)
    (rest : List Char) : List Span :=
  match find p before place rest with
  | none => []
  | some m =>
    let length := m.stop - place
    if length = 0 then
      if fresh then m :: findAll p before place false rest
      else match rest with
        | [] => []
        | c :: rest => findAll p (some c) (place + 1) true rest
    else match rest with
      | [] => [m]
      | c :: rest' =>
        m :: findAll p (lastOr before ((c :: rest').take length)) m.stop false
          ((c :: rest').drop length)
termination_by (rest.length, fresh.toNat)
decreasing_by
  all_goals simp_wf
  · simp_all [Prod.lex_def]
  · simp [Prod.lex_def]
  · simp only [Prod.lex_def]
    left
    omega

end Search

end Deprecation.Regex
