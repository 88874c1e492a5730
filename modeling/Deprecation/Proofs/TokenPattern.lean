/-
# The pattern of a token is well formed

The pattern of a token is written down character by character: what has a meaning in a pattern is
escaped, word boundaries and the group of a function reference are put around it.  This file
reads such a pattern with the parser and finds what was meant, whatever characters the token is
made of.  So the pattern of a token is never malformed, and it compiles unless its expression
takes too much memory.

The parser needs a turn for each part of the pattern.  The one thing that may go wrong is a word
boundary in front of an opening brace, which would select another boundary; but a brace in a
token is escaped.
-/
import Mathlib
import Deprecation.TokenPattern

namespace Deprecation
namespace TokenPattern

open Regex Regex.Parser Regex.Scanner

/-! ## Parts of a pattern -/

/-- What the pattern of a token is made of. -/
inductive Part where
  /-- A character that stands for itself. -/
  | char (c : Char)
  /-- A word boundary. -/
  | bound

namespace Part

/-- The part as it is written. -/
def spelled : Part → List Char
  | char c => if isMeta c then ['\\', c] else [c]
  | bound => ['\\', 'b']

/-- The part as it is parsed. -/
def ast : Part → Ast
  | char c => .literal ⟨c, false⟩
  | bound => .anchor .wordBoundary

/-- What the part means. -/
def expr : Part → Expr
  | char c => .set (CharSet.single c)
  | bound => .look (.wordBoundary true)

end Part

/-- Parts written one after the other. -/
def spell (ps : List Part) : List Char := ps.flatMap Part.spelled

/-- Parsed parts one after the other. -/
def astOf (ps : List Part) : Ast := Ast.ofItems (ps.map Part.ast)

/-- What parts mean one after the other. -/
def exprOf (ps : List Part) : Expr := Expr.sequence (ps.map Part.expr)

lemma spell_append (ps qs : List Part) : spell (ps ++ qs) = spell ps ++ spell qs :=
  List.flatMap_append

lemma spell_chars (s : List Char) : spell (s.map Part.char) = escape s := by
  rw [spell, List.flatMap_map]
  rfl

lemma length_le_spell (ps : List Part) : ps.length ≤ (spell ps).length := by
  induction ps with
  | nil => exact Nat.le_refl 0
  | cons p ps ih =>
    have hpos : 1 ≤ p.spelled.length := by
      cases p with
      | char c =>
        rw [Part.spelled]
        split <;> simp
      | bound => simp [Part.spelled]
    rw [spell, List.flatMap_cons, ← spell, List.length_append, List.length_cons]
    omega

/-- An opening brace never stands in a pattern by itself. -/
lemma head?_spell_append {ps : List Part} {rest : List Char} (hrest : rest.head? ≠ some '\x7b') :
    (spell ps ++ rest).head? ≠ some '\x7b' := by
  cases ps with
  | nil => exact hrest
  | cons p ps =>
    rw [spell, List.flatMap_cons]
    cases p with
    | char c =>
      rw [Part.spelled]
      split
      · simp
      next hc =>
        intro hhead
        have hbrace : c = '\x7b' := by simpa using hhead
        subst hbrace
        exact hc (by decide)
    | bound => simp [Part.spelled]

/-! ## The parts that a token gives -/

/-- The word boundary in front of a text, if it is demanded. -/
def leftParts (s : List Char) : List Part :=
  if (s.head?.map isEdge).getD false then [.bound] else []

/-- The word boundary behind a text, if it is demanded. -/
def rightParts (s : List Char) : List Part :=
  if (s.getLast?.map isEdge).getD false then [.bound] else []

/-- A whole word. -/
def wordParts (s : List Char) : List Part :=
  .bound :: s.map .char ++ [.bound]

/-- An access to a name. -/
def accessParts (name : List Char) : List Part :=
  .char '.' :: name.map .char ++ rightParts name

/-- A call of a name. -/
def callParts (name : List Char) : List Part :=
  leftParts name ++ name.map .char ++ [.char '(']

/-- A text by itself. -/
def literalParts (s : List Char) : List Part :=
  leftParts s ++ s.map .char ++ rightParts s

lemma spell_leftParts (s : List Char) : spell (leftParts s) = leftBound s := by
  rw [leftParts, leftBound]
  split <;> rfl

lemma spell_rightParts (s : List Char) : spell (rightParts s) = rightBound s := by
  rw [rightParts, rightBound]
  split <;> rfl

lemma spell_wordParts (s : List Char) : spell (wordParts s) = wholeWord s := by
  rw [wordParts, spell_append, spell, List.flatMap_cons, ← spell, spell_chars]
  rfl

lemma spell_accessParts (name : List Char) : spell (accessParts name) = access name := by
  rw [accessParts, spell_append, spell, List.flatMap_cons, ← spell, spell_chars,
    spell_rightParts]
  rfl

lemma spell_literalParts (s : List Char) : spell (literalParts s) = literally s := by
  rw [literalParts, spell_append, spell_append, spell_leftParts, spell_chars, spell_rightParts]
  rfl

lemma spell_callParts (name : List Char) :
    spell (callParts name) = leftBound name ++ escape name ++ ['\\', '('] := by
  rw [callParts, spell_append, spell_append, spell_leftParts, spell_chars]
  rfl

/-- The pattern of a function reference is a group of two branches. -/
lemma accessOrCall_eq (name : List Char) :
    accessOrCall name = '(' :: '?' :: ':' :: (spell (accessParts name)
      ++ '|' :: (spell (callParts name) ++ [')'])) := by
  have hopen : "(?:\\.".toList = '(' :: '?' :: ':' :: "\\.".toList := by simp
  have hclose : "\\()".toList = ['\\', '('] ++ [')'] := by simp
  have haccess : access name = "\\.".toList ++ escape name ++ rightBound name := rfl
  rw [spell_accessParts, spell_callParts, haccess]
  show "(?:\\.".toList ++ escape name ++ rightBound name ++ '|' :: leftBound name ++ escape name
    ++ "\\()".toList = _
  rw [hopen, hclose]
  simp only [List.append_assoc, List.cons_append]

/-- What the pattern of a token without blanks around it means. -/
def exprOfTrimmed (prefixes : List String) (token : List Char) : Expr :=
  if isLegacyType prefixes token then exprOf (wordParts token)
  else match functionName token with
    | some name => .group false (.alt (exprOf (accessParts name)) (exprOf (callParts name)))
    | none => match propertyName token with
      | some name => exprOf (accessParts name)
      | none => exprOf (literalParts token)

/-- What the pattern of a token means. -/
def expr (prefixes : List String) (token : String) : Expr :=
  exprOfTrimmed prefixes (Text.trim token.toList)

/-! ## Turns of the parser -/

section Turns

variable {st st' : State} {c : Char} {s rest : List Char} {fuel : Nat}

lemma turns_nil (fuel : Nat) (hverbose : st.verbose = false) : turns fuel st [] = some st := by
  rw [turns.eq_def]
  simp only [hverbose, skip_false]

lemma turns_cons (hverbose : st.verbose = false) (h : turn st c s = some (st', rest)) :
    turns (fuel + 1) st (c :: s) = turns fuel st' rest := by
  rw [turns.eq_def]
  simp only [hverbose, skip_false, h]

/-- A character without a meaning is a literal. -/
lemma turn_of_not_meta (hc : isMeta c = false) :
    turn st c s = some (st.push (.literal ⟨c, false⟩), s) := by
  simp [isMeta] at hc
  simp [turn, hc]

lemma turn_escape (st : State) (s : List Char) :
    turn st '\\' s
      = (Scanner.escape st.verbose s).map fun r => (st.push (Parser.astOf r.1), r.2) := rfl

/-- A character with a meaning is a literal behind a backslash. -/
lemma turn_of_meta (hc : isMeta c = true) :
    turn st '\\' (c :: s) = some (st.push (.literal ⟨c, false⟩), s) := by
  rw [turn_escape, Scanner.escape, if_pos (by rw [isEscapable, hc, Bool.true_or])]
  rfl

/-- A word boundary, unless a brace follows. -/
lemma turn_bound (hs : s.head? ≠ some '\x7b') :
    turn st '\\' ('b' :: s) = some (st.push (.anchor .wordBoundary), s) := by
  have hboundary : boundary st.verbose s = some (.wordBoundary, s) := by
    rw [boundary]
    rintro inside rfl
    exact hs rfl
  have hescape : Scanner.escape st.verbose ('b' :: s)
      = (boundary st.verbose s).map fun r => (.anchor r.1, r.2) := rfl
  rw [turn_escape, hescape, hboundary]
  rfl

/-- A part takes one turn. -/
lemma turns_part (hverbose : st.verbose = false) (p : Part) (hrest : rest.head? ≠ some '\x7b') :
    turns (fuel + 1) st (p.spelled ++ rest) = turns fuel (st.push p.ast) rest := by
  cases p with
  | char c =>
    rw [Part.spelled]
    split
    next hc => exact turns_cons hverbose (turn_of_meta hc)
    next hc => exact turns_cons hverbose (turn_of_not_meta (Bool.not_eq_true _ ▸ hc))
  | bound => exact turns_cons hverbose (turn_bound hrest)

/-- Parts that have been read one after the other. -/
def pushAll (st : State) (ps : List Part) : State :=
  { st with items := (ps.map Part.ast).reverse ++ st.items }

/-- So many parts take so many turns. -/
lemma turns_spell (hverbose : st.verbose = false) (ps : List Part)
    (hrest : rest.head? ≠ some '\x7b') (fuel : Nat) :
    turns (ps.length + fuel) st (spell ps ++ rest) = turns fuel (pushAll st ps) rest := by
  induction ps generalizing st with
  | nil => rw [List.length_nil, Nat.zero_add]; rfl
  | cons p ps ih =>
    have hpush : pushAll (st.push p.ast) ps = pushAll st (p :: ps) := by
      simp [pushAll, State.push]
    have hsplit : spell (p :: ps) ++ rest = p.spelled ++ (spell ps ++ rest) := by
      rw [spell, List.flatMap_cons, ← spell, List.append_assoc]
    have hfuel : (p :: ps).length + fuel = ps.length + fuel + 1 := by
      rw [List.length_cons]
      omega
    rw [hsplit, hfuel, turns_part hverbose p (head?_spell_append hrest), ← hpush]
    exact ih hverbose

end Turns

/-! ## The parsed pattern -/

lemma depth_ast (p : Part) : p.ast.depth = 0 := by
  cases p <;> simp [Part.ast, Ast.depth]

lemma depths_asts (ps : List Part) : depths (ps.map Part.ast) = 0 := by
  induction ps with
  | nil => rfl
  | cons p ps ih => rw [List.map_cons, depths, depth_ast, ih, Nat.max_self]

lemma depth_astOf_le (ps : List Part) : (astOf ps).depth ≤ 1 := by
  match ps with
  | [] => simp [astOf, Ast.ofItems, Ast.depth]
  | [p] => simp [astOf, Ast.ofItems, depth_ast]
  | p :: q :: ps =>
    show (Ast.sequence ((p :: q :: ps).map Part.ast)).depth ≤ 1
    rw [Ast.depth, depths_asts]

lemma inside_pushAll (ps : List Part) : (pushAll {} ps).inside = astOf ps := by
  rw [State.inside, pushAll, List.append_nil, List.reverse_reverse]
  rfl

/-- Parts are parsed to what they stand for. -/
theorem parse_spell (ps : List Part) : Ast.parse (spell ps) = some (astOf ps) := by
  obtain ⟨fuel, hfuel⟩ := Nat.exists_eq_add_of_le (length_le_spell ps)
  have hturns : turns (spell ps).length {} (spell ps) = some (pushAll {} ps) := by
    have hspell : turns (ps.length + fuel) {} (spell ps ++ []) = _ :=
      turns_spell rfl ps (by simp) fuel
    rw [List.append_nil] at hspell
    rw [hfuel, hspell, turns_nil fuel rfl]
  have hdepth : (pushAll {} ps).inside.depth ≤ Ast.maxDepth := by
    rw [inside_pushAll]
    exact (depth_astOf_le ps).trans (by decide)
  rw [Ast.parse, hturns]
  show (if _ then _ else _) = _
  rw [if_pos ⟨rfl, hdepth⟩, inside_pushAll]
  rfl

/-- The state inside a group that is opened at the start. -/
def opened : State := State.openGroup {} false []

lemma turn_open (s : List Char) : turn {} '(' ('?' :: ':' :: s) = some (opened, s) := rfl

lemma turn_branch (st : State) (s : List Char) : turn st '|' s = some (st.nextBranch, s) := rfl

/-- Closing the group leaves a choice between its two branches. -/
lemma turn_close (ps qs : List Part) :
    turn (pushAll (pushAll opened ps).nextBranch qs) ')' []
      = some ({ items := [.group false [] (.alternatives [astOf ps, astOf qs])] }, []) := by
  have hinside : (pushAll (pushAll opened ps).nextBranch qs).inside
      = .alternatives [astOf ps, astOf qs] := by
    simp [State.inside, pushAll, State.nextBranch, opened, State.openGroup, astOf,
      Ast.ofBranches]
  have hclose : turn (pushAll (pushAll opened ps).nextBranch qs) ')' []
      = some ({ items := [.group false []
          (pushAll (pushAll opened ps).nextBranch qs).inside] }, []) := rfl
  rw [hclose, hinside]

lemma turns_accessOrCall (ps qs : List Part) (fuel : Nat) :
    turns (ps.length + qs.length + 3 + fuel) {}
        ('(' :: '?' :: ':' :: (spell ps ++ '|' :: (spell qs ++ [')'])))
      = some { items := [.group false [] (.alternatives [astOf ps, astOf qs])] } := by
  have hfuel : ps.length + qs.length + 3 + fuel
      = ps.length + (qs.length + (fuel + 1) + 1) + 1 := by omega
  rw [hfuel, turns_cons rfl (turn_open _),
    turns_spell rfl ps (by simp),
    turns_cons rfl (turn_branch _ _),
    turns_spell rfl qs (by simp),
    turns_cons rfl (turn_close ps qs), turns_nil fuel rfl]

/-- The group of a function reference is parsed to a choice. -/
theorem parse_accessOrCall (name : List Char) :
    Ast.parse (accessOrCall name)
      = some (.group false [] (.alternatives
          [astOf (accessParts name), astOf (callParts name)])) := by
  rw [accessOrCall_eq]
  generalize accessParts name = ps
  generalize callParts name = qs
  have hlength : ps.length + qs.length + 3
      ≤ ('(' :: '?' :: ':' :: (spell ps ++ '|' :: (spell qs ++ [')']))).length := by
    have hps := length_le_spell ps
    have hqs := length_le_spell qs
    simp only [List.length_cons, List.length_append, List.length_nil]
    omega
  obtain ⟨fuel, hfuel⟩ := Nat.exists_eq_add_of_le hlength
  have hdepth : (Ast.group false [] (.alternatives [astOf ps, astOf qs])).depth ≤ Ast.maxDepth := by
    have hps := depth_astOf_le ps
    have hqs := depth_astOf_le qs
    simp only [Ast.depth, depths, Ast.maxDepth]
    omega
  rw [Ast.parse, hfuel, turns_accessOrCall]
  show (if _ then _ else _) = _
  exact if_pos ⟨rfl, hdepth⟩

/-! ## What the pattern means -/

lemma expr_ast (p : Part) : p.ast.expr {} = some (p.expr, {}) := by
  cases p with
  | char c => simp [Part.ast, Part.expr, Ast.expr, Mode.literal]
  | bound => simp [Part.ast, Part.expr, Ast.expr, Mode.look]

lemma exprs_asts (ps : List Part) : exprs {} (ps.map Part.ast) = some (ps.map Part.expr, {}) := by
  induction ps with
  | nil => rfl
  | cons p ps ih =>
    rw [List.map_cons, exprs, expr_ast, List.map_cons]
    simp [ih]

lemma expr_astOf (ps : List Part) : (astOf ps).expr {} = some (exprOf ps, {}) := by
  match ps with
  | [] => rfl
  | [p] => exact expr_ast p
  | p :: q :: ps =>
    show (Ast.sequence ((p :: q :: ps).map Part.ast)).expr {} = _
    rw [Ast.expr, exprs_asts]
    rfl

/-- The pattern of a token is parsed, and means what was meant. -/
theorem parse_ofTrimmed (prefixes : List String) (token : List Char) :
    ∃ ast, Ast.parse (ofTrimmed prefixes token).2 = some ast ∧
      ast.expr {} = some (exprOfTrimmed prefixes token, {}) := by
  rw [ofTrimmed, exprOfTrimmed]
  split
  · rw [← spell_wordParts]
    exact ⟨_, parse_spell _, expr_astOf _⟩
  cases functionName token with
  | some name =>
    refine ⟨_, parse_accessOrCall name, ?_⟩
    rw [Ast.expr]
    simp [Mode.apply, Ast.expr, exprs, expr_astOf, Expr.choice]
  | none =>
    cases propertyName token with
    | some name =>
      dsimp only
      rw [← spell_accessParts]
      exact ⟨_, parse_spell _, expr_astOf _⟩
    | none =>
      dsimp only
      rw [← spell_literalParts]
      exact ⟨_, parse_spell _, expr_astOf _⟩

/-- The pattern of a token means what was meant, as long as this fits. -/
lemma exprOf_pattern (prefixes : List String) (token : String) :
    Regex.exprOf (pattern prefixes token) =
      if (expr prefixes token).fits then some (expr prefixes token) else none := by
  obtain ⟨ast, hparse, hexpr⟩ := parse_ofTrimmed prefixes (Text.trim token.toList)
  rw [Regex.exprOf, pattern, String.toList_ofList, hparse]
  simp only [Option.bind_eq_bind, Option.bind_some, hexpr]
  rfl

/-- **The pattern of a token compiles unless it takes too much memory.** -/
theorem compile_pattern_isSome_iff (prefixes : List String) (token : String) :
    (Regex.compile (pattern prefixes token)).isSome = true ↔ (expr prefixes token).fits = true := by
  rw [Regex.compile, Option.isSome_map, exprOf_pattern]
  split <;> simp [*]

/-- A compiled pattern of a token is the program of what was meant. -/
lemma program_of_compile {prefixes : List String} {token : String} {r : Regex}
    (h : Regex.compile (pattern prefixes token) = some r) :
    r.program = Program.ofExpr (expr prefixes token) := by
  rw [Regex.compile, exprOf_pattern] at h
  split at h
  · cases h
    rfl
  · cases h

end TokenPattern
end Deprecation
