/-
# How much memory the pattern of a token takes

The pattern of a token compiles unless it takes too much memory, and how much it takes can be read
off the texts that are searched for.  A text is searched for as one literal with a word boundary at
each end that has an edge; it takes a state for each of its bytes in UTF-8 and for each boundary,
and a few states around it.  Read from its end it takes no more.

A function reference has two texts.  Where a boundary is demanded, each of them takes its own
states, and the choice between them a few more.  Where none is, the two are words of a choice and
each of their bytes takes two states; they share none, since they differ in their first byte, in
whichever direction they are read: one begins with a dot and the other ends with a parenthesis, and
the name between them has neither.
-/
import Mathlib
import Deprecation.Proofs.Regex.Shape
import Deprecation.Proofs.Regex.Size
import Deprecation.Proofs.TokenPattern.OwnText
import Deprecation.Proofs.TokenPattern.Scanner

namespace Deprecation
namespace TokenPattern

open Regex Regex.Shape

/-! ## Shapes of parts -/

/-- The shape of a part. -/
def Part.shape : Part → Regex.Shape
  | .char c => .literal [c.toNat]
  | .bound => .look (.wordBoundary true)

lemma isItem_shape (p : Part) : p.shape.IsItem := by
  cases p <;> exact ⟨rfl, rfl⟩

lemma isItem_of_mem_shapes (ps : List Part) : ∀ a ∈ ps.map Part.shape, a.IsItem :=
  List.forall_mem_map.mpr fun p _ => isItem_shape p

lemma branches_expr (p : Part) : branches p.expr = [p.shape] := by
  cases p with
  | char c =>
    rw [Part.expr, branches, CharSet.ranges_single, ofRanges, if_pos rfl]
    rfl
  | bound =>
    rw [Part.expr, branches]
    rfl

/-- Parts have the shape of a sequence. -/
lemma branches_exprOf {ps : List Part} (h : ps ≠ []) :
    branches (exprOf ps) = [sequence (ps.map Part.shape)] := by
  induction ps with
  | nil => exact absurd rfl h
  | cons p ps ih =>
    cases ps with
    | nil =>
      rw [exprOf, List.map_singleton, Expr.sequence, branches_expr]
      cases p <;> rfl
    | cons q qs =>
      have hrest := isItem_of_mem_shapes (q :: qs)
      have hexpr : exprOf (p :: q :: qs) = .seq p.expr (exprOf (q :: qs)) := rfl
      rw [hexpr, branches, branches_expr, ih (List.cons_ne_nil q qs),
        alternation_single (isItem_shape p).choices_eq,
        alternation_single (choices_sequence hrest),
        sequence_cons_sequence (isItem_shape p) hrest]
      rfl

/-! ## A literal between boundaries -/

/-- A literal with a word boundary on its left and on its right, if they are demanded. -/
def framed (left : Bool) (codes : List Nat) (right : Bool) : Regex.Shape :=
  match left, right with
  | false, false => .literal codes
  | false, true => .seq [.literal codes, .look (.wordBoundary true)]
  | true, false => .seq [.look (.wordBoundary true), .literal codes]
  | true, true => .seq [.look (.wordBoundary true), .literal codes, .look (.wordBoundary true)]

/-- The states of a search beside those of what is searched for. -/
def around (isBackward : Bool) : Nat := if isBackward then 4 else 6

@[simp] lemma around_false : around false = 6 := rfl

@[simp] lemma around_true : around true = 4 := rfl

section Framed

variable {left right left' right' isBackward : Bool} {codes codes' : List Nat}

lemma choices_framed : (framed left codes right).choices = [framed left codes right] := by
  cases left <;> cases right <;> rfl

lemma isDictionary_framed : (framed left codes right).isDictionary = false := by
  cases left <;> cases right <;> rfl

lemma reversed_framed : (framed left codes right).reversed = framed right codes.reverse left := by
  cases left <;> cases right <;> rfl

lemma beginsWith_framed {l : Look} (hl : l ≠ .wordBoundary true) :
    (framed left codes right).beginsWith l = false := by
  cases left <;> cases right <;>
    simp [framed, beginsWith, firstBeginsWith, takesNothing, hl.symm]

/-- A literal takes a state for each of its bytes and for each boundary. -/
lemma grow_framed (size : Size) :
    (framed left codes right).grow isBackward size
      = ⟨size.plus ((literalBytes isBackward codes).length + (left.toNat + right.toNat)) 0,
          false⟩ := by
  cases left <;> cases right <;>
    simp [framed, grow, growOn, Stage.attached] <;>
    ring_nf

lemma size_framed :
    (framed left codes right).size isBackward
      = ⟨(literalBytes isBackward codes).length + (left.toNat + right.toNat)
          + around isBackward, 16⟩ := by
  cases isBackward <;>
    simp [Regex.Shape.size, beginsWith_framed, grow_framed, Stage.attached, Size.plus] <;>
    omega

/-! ## A choice between two literals -/

/-- Two literals with a boundary somewhere take their own states each. -/
lemma size_pair_of_framed (h : left.toNat + right.toNat + (left'.toNat + right'.toNat) ≠ 0) :
    (Regex.Shape.alt [framed left codes right, framed left' codes' right']).size isBackward
      = ⟨(literalBytes isBackward codes).length + (literalBytes isBackward codes').length
          + (left.toNat + right.toNat + (left'.toNat + right'.toNat)) + (around isBackward + 2),
          24⟩ := by
  have hliterals : [framed left codes right, framed left' codes' right'].mapM literal? = none := by
    cases left <;> cases right <;> cases left' <;> cases right' <;> simp at h <;> rfl
  cases isBackward <;>
    simp [Regex.Shape.size, beginsWith, allBeginWith, beginsWith_framed, grow, hliterals,
      growBranches, growOthers, grow_framed, Stage.attached, Size.plus] <;>
    omega

/-- Two literals without a boundary are words of a choice. -/
lemma size_pair_of_words {a b : Nat} {v w : List Nat} (hv : literalBytes isBackward codes = a :: v)
    (hw : literalBytes isBackward codes' = b :: w) (hab : a ≠ b) :
    (Regex.Shape.alt [.literal codes, .literal codes']).size isBackward
      = ⟨2 * (v.length + w.length) + (around isBackward + 3), 4 * (v.length + w.length) + 36⟩ := by
  have hliterals : [Regex.Shape.literal codes, .literal codes'].mapM literal?
      = some [codes, codes'] := rfl
  -- a byte of the longer word is one level of the choice, and the first level is where they part
  have hmax : max (v.length + 1) (w.length + 1) = max v.length w.length + 1 := by omega
  cases isBackward <;>
    simp [Regex.Shape.size, beginsWith, allBeginWith, grow, hliterals, hv, hw, hmax,
      Size.words_pair hab, Stage.attached, Size.plus] <;>
    omega

/-- A choice between two literals is left as it is, unless one of them is a single character. -/
lemma choice_framed (h : 1 < codes.length) :
    choice [framed left codes right, framed left' codes' right']
      = .alt [framed left codes right, framed left' codes' right'] := by
  have hcharacter : (framed left codes right).character? = none := by
    match codes, h with
    | a :: b :: codes, _ => cases left <;> cases right <;> rfl
  have hranges : (framed left codes right).ranges? = none := by
    cases left <;> cases right <;> rfl
  simp [choice, hcharacter, hranges]

/-- A boundary in front of the one literal only, or behind the other one only, leaves them no
common beginning. -/
lemma alternation_framed (h : 1 < codes.length) :
    alternation [framed false codes right, framed left' codes' false]
      = .alt [framed false codes right, framed left' codes' false] := by
  rw [← choice_framed h, alternation]
  cases right <;> cases left' <;> rfl

end Framed

/-! ## Texts -/

variable {s name : List Char}

/-- A word boundary is demanded at an end of a text. -/
def isBound (c : Option Char) : Bool := (c.map isEdge).getD false

/-- How many word boundaries are demanded around a text. -/
def bounds (s : List Char) : Nat := (isBound s.head?).toNat + (isBound s.getLast?).toNat

/-- The shape of a text. -/
def textShape (s : List Char) : Regex.Shape :=
  framed (isBound s.head?) (s.map Char.toNat) (isBound s.getLast?)

/-- The characters of a text become one literal. -/
lemma foldr_before_chars (hs : s ≠ []) {rest : List Regex.Shape}
    (hrest : ∀ a ∈ rest.head?, a.literal? = none) :
    ((s.map Part.char).map Part.shape).foldr before rest
      = .literal (s.map Char.toNat) :: rest := by
  induction s with
  | nil => exact absurd rfl hs
  | cons c s ih =>
    cases s with
    | nil => exact before_of_apart fun a ha => Or.inr (hrest a ha)
    | cons d s =>
      rw [List.map_cons, List.map_cons, List.foldr_cons, ih (List.cons_ne_nil d s)]
      rfl

/-- What a text puts into a sequence. -/
lemma foldr_before_literalParts (hs : s ≠ []) :
    ((literalParts s).map Part.shape).foldr before []
      = (leftParts s).map Part.shape
          ++ .literal (s.map Char.toNat) :: (rightParts s).map Part.shape := by
  have hright : ((rightParts s).map Part.shape).foldr before []
      = (rightParts s).map Part.shape := by
    rw [rightParts]
    split <;> rfl
  have hlooks : ∀ a ∈ ((rightParts s).map Part.shape).head?, a.literal? = none := by
    rw [rightParts]
    split <;> simp [Part.shape, literal?]
  rw [literalParts, List.map_append, List.map_append, List.foldr_append, List.foldr_append, hright,
    foldr_before_chars hs hlooks, leftParts]
  split <;> rfl

lemma branches_literalParts (hs : s ≠ []) : branches (exprOf (literalParts s)) = [textShape s] := by
  have hne : literalParts s ≠ [] := by simp [literalParts, hs]
  have hleft : leftParts s = if isBound s.head? then [.bound] else [] := rfl
  have hright : rightParts s = if isBound s.getLast? then [.bound] else [] := rfl
  rw [branches_exprOf hne, Regex.Shape.sequence, flatMap_items (isItem_of_mem_shapes _),
    foldr_before_literalParts hs, hleft, hright, textShape]
  cases isBound s.head? <;> cases isBound s.getLast? <;> rfl

lemma choices_textShape (s : List Char) : (textShape s).choices = [textShape s] := choices_framed

lemma reversed_textShape (s : List Char) : (textShape s).reversed = textShape s.reverse := by
  rw [textShape, reversed_framed, textShape, List.head?_reverse, List.getLast?_reverse,
    List.map_reverse]

@[simp] lemma bounds_reverse (s : List Char) : bounds s.reverse = bounds s := by
  rw [bounds, bounds, List.head?_reverse, List.getLast?_reverse, Nat.add_comm]

lemma size_textShape (isBackward : Bool) (s : List Char) :
    (textShape s).size isBackward = ⟨byteLength s + bounds s + around isBackward, 16⟩ := by
  rw [textShape, size_framed, length_literalBytes, bounds]

/-- Two texts with a boundary somewhere. -/
lemma size_pair_of_bounds {s s' : List Char} (h : bounds s + bounds s' ≠ 0) (isBackward : Bool) :
    (Regex.Shape.alt [textShape s, textShape s']).size isBackward
      = ⟨byteLength s + byteLength s' + (bounds s + bounds s') + (around isBackward + 2), 24⟩ := by
  rw [textShape, textShape, size_pair_of_framed h, length_literalBytes, length_literalBytes]
  rfl

lemma textShape_of_bounds (h : bounds s = 0) : textShape s = .literal (s.map Char.toNat) := by
  rw [bounds] at h
  rw [textShape]
  cases hleft : isBound s.head? <;> cases hright : isBound s.getLast? <;>
    first
      | rfl
      | simp [hleft, hright] at h

/-- Two texts without boundaries that differ in their first byte. -/
lemma bytes_size_pair_of_bare {s s' : List Char} {isBackward : Bool}
    (h : bounds s + bounds s' = 0) (hs : s ≠ []) (hs' : s' ≠ [])
    (hhead : (literalBytes isBackward (s.map Char.toNat)).head?
      ≠ (literalBytes isBackward (s'.map Char.toNat)).head?) :
    ((Regex.Shape.alt [textShape s, textShape s']).size isBackward).bytes + 4
      = 68 * (byteLength s + byteLength s') + 32 * around isBackward := by
  obtain ⟨h0, h0'⟩ := Nat.add_eq_zero_iff.mp h
  have hlength := length_literalBytes isBackward s
  have hlength' := length_literalBytes isBackward s'
  rw [textShape_of_bounds h0, textShape_of_bounds h0']
  obtain ⟨a, v, hv⟩ := List.exists_cons_of_ne_nil (@literalBytes_ne_nil isBackward s hs)
  obtain ⟨b, w, hw⟩ := List.exists_cons_of_ne_nil (@literalBytes_ne_nil isBackward s' hs')
  rw [hv, List.length_cons] at hlength
  rw [hw, List.length_cons] at hlength'
  have hab : a ≠ b := by
    rintro rfl
    rw [hv, hw] at hhead
    exact hhead rfl
  rw [size_pair_of_words hv hw hab, Size.bytes]
  dsimp only
  omega

/-! ## Memory -/

/-- The bytes that a search for a text takes. -/
def textMemory (s : List Char) : Nat := 32 * (byteLength s + bounds s + 6) + 16

/-- The bytes that a search for two texts takes. -/
def pairMemory (s s' : List Char) : Nat :=
  if bounds s + bounds s' = 0 then 68 * (byteLength s + byteLength s') + 188
  else 32 * (byteLength s + byteLength s' + (bounds s + bounds s') + 8) + 24

/-- A search for one text fits just when it takes no more memory than there may be. -/
lemma fits_text_iff (hs : s ≠ []) :
    (exprOf (literalParts s)).fits = true ↔ textMemory s ≤ Size.limit := by
  have hshape : Regex.Shape.ofExpr (exprOf (literalParts s)) = textShape s := by
    rw [Regex.Shape.ofExpr, branches_literalParts hs, alternation_single (choices_textShape s)]
  have hdictionary : (textShape s).isDictionary = false := isDictionary_framed
  rw [Expr.fits, hshape, hdictionary, reversed_textShape, size_textShape, size_textShape,
    byteLength_reverse, bounds_reverse, Bool.false_or, Bool.and_eq_true, Size.fits, Size.fits,
    decide_eq_true_iff, decide_eq_true_iff]
  simp only [Size.bytes, around_false, around_true, textMemory]
  omega

section Pair

variable (hne : name ≠ []) (hdot : '.' ∉ name) (hparen : '(' ∉ name)
include hne

/-- A choice between an access and a call is left as it is. -/
lemma alternation_pair :
    alternation [textShape ('.' :: name), textShape (name ++ ['('])]
      = .alt [textShape ('.' :: name), textShape (name ++ ['('])] := by
  have hleft : isBound ('.' :: name).head? = false := Bool.eq_false_iff.mpr not_hasEdge_dot
  have hright : isBound (name ++ ['(']).getLast? = false := by
    rw [List.getLast?_concat]
    exact Bool.eq_false_iff.mpr not_hasEdge_paren
  rw [textShape, textShape, hleft, hright]
  refine alternation_framed ?_
  rw [List.length_map, List.length_cons]
  exact Nat.lt_add_of_pos_left (List.length_pos_iff.mpr hne)

lemma ofExpr_pair : Regex.Shape.ofExpr (exprOfTexts ['.' :: name, name ++ ['(']])
    = .alt [textShape ('.' :: name), textShape (name ++ ['('])] := by
  have hcall : name ++ ['('] ≠ [] := by simp
  have hchoices : [Regex.Shape.alt [textShape ('.' :: name), textShape (name ++ ['('])]].flatMap
      choices = [textShape ('.' :: name), textShape (name ++ ['('])].flatMap choices := by
    rw [List.flatMap_singleton, List.flatMap_cons, List.flatMap_singleton, choices_textShape,
      choices_textShape]
    rfl
  rw [Regex.Shape.ofExpr, exprOfTexts, branches, branches,
    branches_literalParts (List.cons_ne_nil _ _), branches_literalParts hcall,
    alternation_single (choices_textShape _), alternation_pair hne, alternation_congr hchoices,
    alternation_pair hne]

include hdot hparen

/-- A search for an access or a call fits just when it takes no more memory than there may be. -/
lemma fits_pair_iff :
    (exprOfTexts ['.' :: name, name ++ ['(']]).fits = true ↔
      pairMemory ('.' :: name) (name ++ ['(']) ≤ Size.limit := by
  have hcall : name ++ ['('] ≠ [] := by simp
  have hdictionary :
      (Regex.Shape.alt [textShape ('.' :: name), textShape (name ++ ['('])]).isDictionary
        = false := rfl
  have hreversed : (Regex.Shape.alt [textShape ('.' :: name), textShape (name ++ ['('])]).reversed
      = .alt [textShape ('.' :: name).reverse, textShape (name ++ ['(']).reverse] := by
    rw [← reversed_textShape, ← reversed_textShape]
    rfl
  rw [Expr.fits, ofExpr_pair hne, hdictionary, hreversed, Bool.false_or, Bool.and_eq_true,
    Size.fits, Size.fits, decide_eq_true_iff, decide_eq_true_iff, pairMemory]
  by_cases hbare : bounds ('.' :: name) + bounds (name ++ ['(']) = 0
  · have hbare' : bounds ('.' :: name).reverse + bounds (name ++ ['(']).reverse = 0 := by
      rwa [bounds_reverse, bounds_reverse]
    have hhead := @head?_literalBytes_ne false '.' '(' name hne (by decide) hdot
    have hhead' := @head?_literalBytes_ne true '(' '.' name.reverse (by simpa using hne)
      (by decide) (by simpa using hparen)
    -- read from their ends, the call begins with its parenthesis and the access ends with its dot
    rw [← List.reverse_cons, ← List.reverse_concat] at hhead'
    have hforward := bytes_size_pair_of_bare hbare (List.cons_ne_nil _ _) hcall hhead
    have hbackward := bytes_size_pair_of_bare hbare' (by simp) (by simp) hhead'.symm
    rw [byteLength_reverse, byteLength_reverse, around_true] at hbackward
    rw [around_false] at hforward
    rw [if_pos hbare]
    omega
  · have hbare' : bounds ('.' :: name).reverse + bounds (name ++ ['(']).reverse ≠ 0 := by
      rwa [bounds_reverse, bounds_reverse]
    rw [if_neg hbare, size_pair_of_bounds hbare, size_pair_of_bounds hbare', bounds_reverse,
      bounds_reverse, byteLength_reverse, byteLength_reverse]
    simp only [Size.bytes, around_false, around_true]
    omega

end Pair

/-! ## Tokens -/

/-- The bytes that a search for one text or for two takes. -/
def memoryOfTexts : List (List Char) → Nat
  | [s] => textMemory s
  | [s, s'] => pairMemory s s'
  | _ => 0

/-- The bytes that the pattern of a token takes. -/
def memory (prefixes : List String) (token : String) : Nat :=
  memoryOfTexts (searched (shape prefixes token) (Text.trim token.toList))

lemma fits_exprOfTrimmed_iff {prefixes : List String} {token : List Char} (hne : token ≠ []) :
    (exprOfTrimmed prefixes token).fits = true ↔
      memoryOfTexts (searched (ofTrimmed prefixes token).1 token) ≤ Size.limit := by
  rw [exprOfTrimmed_eq]
  cases hshape : (ofTrimmed prefixes token).1 with
  | legacyType | literal => exact fits_text_iff hne
  | propertyAccess => exact fits_text_iff (List.cons_ne_nil _ _)
  | functionReference =>
    obtain ⟨name, hname⟩ := exists_functionName hshape
    obtain ⟨rfl, hnamene, -⟩ := functionName_eq_some hname
    refine fits_pair_iff hnamene (fun hdot => (mem_of_mem_lastSegment hdot).2 rfl) fun hparen => ?_
    simpa using List.mem_takeWhile_imp (mem_of_mem_lastSegment hparen).1

/-- **The pattern of a token compiles just when its texts take no more memory than there may
be.** -/
theorem compile_pattern_isSome_iff_memory_le (prefixes : List String) (token : String) :
    (Regex.compile (pattern prefixes token)).isSome = true ↔
      memory prefixes token ≤ Size.limit := by
  rw [compile_pattern_isSome_iff, expr, memory, shape]
  by_cases hne : Text.trim token.toList = []
  · -- nothing is searched for
    have hfits : (exprOf (literalParts [])).fits = true := by decide
    have hmemory : textMemory [] ≤ Size.limit := by decide
    rw [hne, exprOfTrimmed_eq]
    exact iff_of_true hfits hmemory
  · exact fits_exprOfTrimmed_iff hne

end TokenPattern
end Deprecation
