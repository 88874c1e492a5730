/-
# Where the pattern of a token matches

The four shapes of a pattern come to one: a pattern searches for certain texts, and demands a word
boundary at an end of a text just when the character there is an edge.  An access begins with a
dot and a call ends with a parenthesis, which are no edges; and an identifier, which is searched
for as a whole word, has edges at both of its ends.

A word boundary separates a word character from one that is none, or from an end of the text.  An
edge is a letter, a number or an underscore, and such a character need not be a word character:
next to one that is none, the boundary demands a word character on the other side.
-/
import Mathlib
import Deprecation.Proofs.Regex.Meaning
import Deprecation.Proofs.TokenPattern

namespace Deprecation
namespace TokenPattern

open Regex Regex.Search

/-! ## Texts that stand somewhere -/

/-- The texts that are searched for. -/
def searched (shape : Shape) (token : List Char) : List (List Char) :=
  match shape with
  | .legacyType | .literal => [token]
  | .propertyAccess => ['.' :: lastSegment token]
  | .functionReference =>
    let name := lastSegment (token.takeWhile (· ≠ '('))
    ['.' :: name, name ++ ['(']]

/-- Just one of two neighbours is a word character. -/
def Parted (before after : Option Char) : Prop :=
  Look.wordAt true before ≠ Look.wordAt true after

/-- At the end of a text there is a character next to which a word boundary is demanded. -/
def HasEdge (c : Option Char) : Prop := (c.map isEdge).getD false = true

/-- A text may stand between two neighbours, either of which may be absent: at an end with an edge
there is a word boundary. -/
structure Stands (text : List Char) (before after : Option Char) : Prop where
  left : HasEdge text.head? → Parted before text.head?
  right : HasEdge text.getLast? → Parted text.getLast? after

/-! ## Parts and what they match -/

variable {text name qs token : List Char} {before : Option Char} {rest : List Char} {n : Nat}

lemma isPlain_exprOf (ps : List Part) : (exprOf ps).IsPlain := by
  refine Expr.isPlain_sequence fun e he => ?_
  obtain ⟨p, -, rfl⟩ := List.mem_map.mp he
  cases p <;> trivial

lemma matches_nil_iff : (exprOf []).Matches before rest n ↔ n = 0 := Iff.rfl

lemma matches_char_iff {c : Char} {ps : List Part} : (exprOf (.char c :: ps)).Matches before rest n ↔
    ∃ rest' m, rest = c :: rest' ∧ n = m + 1 ∧ (exprOf ps).Matches (some c) rest' m := by
  rw [exprOf, List.map_cons, Expr.matches_sequence_cons]
  constructor
  · rintro ⟨-, m, rfl, ⟨d, rest', rfl, hd, rfl⟩, h⟩
    obtain rfl := CharSet.has_single.mp hd
    rw [List.take_succ_cons, lastOr_cons, List.take_zero, lastOr_nil] at h
    exact ⟨rest', m, rfl, Nat.add_comm 1 m, h⟩
  · rintro ⟨rest', m, rfl, rfl, h⟩
    refine ⟨1, m, Nat.add_comm m 1, ⟨c, rest', rfl, CharSet.has_single.mpr rfl, rfl⟩, ?_⟩
    rwa [List.take_succ_cons, lastOr_cons, List.take_zero, lastOr_nil]

lemma matches_bound_iff {ps : List Part} : (exprOf (.bound :: ps)).Matches before rest n ↔
    Parted before rest.head? ∧ (exprOf ps).Matches before rest n := by
  have hbound : ∀ k, (Part.bound.expr).Matches before rest k ↔ Parted before rest.head? ∧ k = 0 := by
    intro k
    rw [Part.expr, Expr.Matches, Look.holds, bne_iff_ne]
    rfl
  rw [exprOf, List.map_cons, Expr.matches_sequence_cons]
  constructor
  · rintro ⟨k, m, rfl, hk, h⟩
    obtain ⟨hparted, rfl⟩ := (hbound k).mp hk
    rw [List.take_zero, lastOr_nil, List.drop_zero] at h
    rw [Nat.zero_add]
    exact ⟨hparted, h⟩
  · rintro ⟨hparted, h⟩
    refine ⟨0, n, (Nat.zero_add n).symm, (hbound 0).mpr ⟨hparted, rfl⟩, ?_⟩
    rwa [List.take_zero, lastOr_nil]

lemma matches_chars_iff (text : List Char) {ps : List Part} :
    (exprOf (text.map .char ++ ps)).Matches before rest n ↔ ∃ after m, rest = text ++ after ∧
      n = text.length + m ∧ (exprOf ps).Matches (lastOr before text) after m := by
  induction text generalizing before rest n with
  | nil =>
    rw [lastOr_nil]
    constructor
    · exact fun h => ⟨rest, n, rfl, (Nat.zero_add n).symm, h⟩
    · rintro ⟨after, m, rfl, rfl, h⟩
      rwa [List.length_nil, Nat.zero_add]
  | cons c text ih =>
    rw [List.map_cons, List.cons_append, matches_char_iff, lastOr_cons]
    constructor
    · rintro ⟨rest', k, rfl, rfl, h⟩
      obtain ⟨after, m, rfl, rfl, hafter⟩ := ih.mp h
      exact ⟨after, m, rfl, Nat.add_right_comm _ _ _, hafter⟩
    · rintro ⟨after, m, rfl, rfl, h⟩
      exact ⟨text ++ after, text.length + m, rfl, Nat.add_right_comm _ _ _,
        ih.mpr ⟨after, m, rfl, rfl, h⟩⟩

lemma matches_leftParts_iff {ps : List Part} :
    (exprOf (leftParts text ++ ps)).Matches before rest n ↔
      (HasEdge text.head? → Parted before rest.head?) ∧ (exprOf ps).Matches before rest n := by
  rw [leftParts]
  split
  · next h =>
    have hedge : HasEdge text.head? := h
    rw [List.singleton_append, matches_bound_iff, imp_iff_right hedge]
  · next h =>
    have hedge : ¬HasEdge text.head? := h
    rw [List.nil_append, forall_prop_of_false hedge, true_and]

lemma matches_rightParts_iff : (exprOf (rightParts text)).Matches before rest n ↔
    (HasEdge text.getLast? → Parted before rest.head?) ∧ n = 0 := by
  rw [rightParts]
  split
  · next h =>
    have hedge : HasEdge text.getLast? := h
    rw [matches_bound_iff, imp_iff_right hedge, matches_nil_iff]
  · next h =>
    have hedge : ¬HasEdge text.getLast? := h
    rw [forall_prop_of_false hedge, true_and, matches_nil_iff]

/-- A text by itself is matched where it stands. -/
theorem matches_literalParts_iff (hne : text ≠ []) :
    (exprOf (literalParts text)).Matches before rest n ↔
      n = text.length ∧ ∃ after, rest = text ++ after ∧ Stands text before after.head? := by
  have hlast : lastOr before text = text.getLast? := by
    rw [lastOr, List.getLast?_eq_some_getLast hne]
    rfl
  have hhead (after : List Char) : (text ++ after).head? = text.head? := by
    rw [List.head?_append, List.head?_eq_some_head hne]
    rfl
  rw [literalParts, List.append_assoc, matches_leftParts_iff, matches_chars_iff, hlast]
  constructor
  · rintro ⟨hleft, after, m, rfl, rfl, h⟩
    obtain ⟨hright, rfl⟩ := matches_rightParts_iff.mp h
    rw [hhead] at hleft
    exact ⟨rfl, after, rfl, hleft, hright⟩
  · rintro ⟨rfl, after, rfl, hleft, hright⟩
    rw [hhead]
    exact ⟨hleft, after, 0, rfl, rfl, matches_rightParts_iff.mpr ⟨hright, rfl⟩⟩

/-! ## One shape for all -/

lemma not_hasEdge_dot : ¬HasEdge (some '.') := by
  rw [HasEdge]
  decide

lemma not_hasEdge_paren : ¬HasEdge (some '(') := by
  rw [HasEdge]
  decide

/-- An access is searched for as a text by itself. -/
lemma accessParts_eq (hne : name ≠ []) : accessParts name = literalParts ('.' :: name) := by
  have hleft : leftParts ('.' :: name) = [] := if_neg not_hasEdge_dot
  have hright : rightParts ('.' :: name) = rightParts name := by
    rw [rightParts, List.getLast?_cons_of_ne_nil hne, rightParts]
  rw [accessParts, literalParts, hleft, hright]
  rfl

/-- A call is searched for as a text by itself. -/
lemma callParts_eq (hne : name ≠ []) : callParts name = literalParts (name ++ ['(']) := by
  have hleft : leftParts (name ++ ['(']) = leftParts name := by
    rw [leftParts, leftParts, List.head?_append, List.head?_eq_some_head hne]
    rfl
  have hright : rightParts (name ++ ['(']) = [] := by
    rw [rightParts, List.getLast?_concat]
    exact if_neg not_hasEdge_paren
  rw [callParts, literalParts, hleft, hright, List.map_append, List.append_nil, List.append_assoc]
  rfl

/-- An identifier is searched for as a text by itself, since it has edges at its ends. -/
lemma wordParts_eq (h : isIdentifier token = true) : wordParts token = literalParts token := by
  rw [isIdentifier, Bool.and_eq_true] at h
  obtain ⟨hfirst, hall⟩ := h
  cases token with
  | nil => cases hfirst
  | cons c s =>
    have hmem : ∀ d ∈ c :: s, isEdge d = true := List.all_eq_true.mp hall
    have hleft : leftParts (c :: s) = [.bound] := if_pos (hmem c List.mem_cons_self)
    have hright : rightParts (c :: s) = [.bound] := by
      rw [rightParts, List.getLast?_eq_some_getLast (List.cons_ne_nil c s)]
      exact if_pos (hmem _ (List.getLast_mem _))
    rw [wordParts, literalParts, hleft, hright]
    rfl

lemma functionName_eq_some (h : functionName token = some name) :
    name = lastSegment (token.takeWhile (· ≠ '(')) ∧ name ≠ [] ∧ '(' ∈ token := by
  rw [functionName] at h
  split at h
  · next hparen =>
    dsimp only at h
    split at h
    · cases h
    · next hne =>
      cases h
      exact ⟨rfl, by simpa using hne, List.contains_iff_mem.mp hparen⟩
  · cases h

lemma propertyName_eq_some (h : propertyName token = some name) :
    name = lastSegment token ∧ name ≠ [] ∧ '.' ∈ token := by
  rw [propertyName] at h
  split at h
  · next hdot =>
    dsimp only at h
    split at h
    · cases h
    · next hne =>
      cases h
      exact ⟨rfl, by simpa using hne, List.contains_iff_mem.mp hdot⟩
  · cases h

lemma isPlain_exprOfTrimmed (prefixes : List String) (token : List Char) :
    (exprOfTrimmed prefixes token).IsPlain := by
  rw [exprOfTrimmed]
  split
  · exact isPlain_exprOf _
  · split
    · exact ⟨isPlain_exprOf _, isPlain_exprOf _⟩
    · split
      · exact isPlain_exprOf _
      · exact isPlain_exprOf _

lemma ne_nil_of_mem_searched {prefixes : List String} (hne : token ≠ [])
    (h : text ∈ searched (ofTrimmed prefixes token).1 token) : text ≠ [] := by
  generalize (ofTrimmed prefixes token).1 = shape at h
  cases shape with
  | legacyType | literal => rwa [List.mem_singleton.mp h]
  | propertyAccess =>
    rw [List.mem_singleton.mp h]
    exact List.cons_ne_nil _ _
  | functionReference =>
    rcases List.mem_cons.mp h with rfl | h
    · exact List.cons_ne_nil _ _
    · rw [List.mem_singleton.mp h]
      simp

/-- What a pattern means that searches for one text or for two. -/
def exprOfTexts : List (List Char) → Expr
  | [text] => exprOf (literalParts text)
  | [text, text'] => .group false (.alt (exprOf (literalParts text)) (exprOf (literalParts text')))
  | _ => .empty

/-- The pattern of a token means no more than the texts that are searched for. -/
lemma exprOfTrimmed_eq (prefixes : List String) (token : List Char) :
    exprOfTrimmed prefixes token = exprOfTexts (searched (ofTrimmed prefixes token).1 token) := by
  rw [exprOfTrimmed, ofTrimmed]
  split
  next hlegacy =>
    rw [isLegacyType, Bool.and_eq_true] at hlegacy
    exact congrArg exprOf (wordParts_eq hlegacy.1)
  cases hfunction : functionName token with
  | some name =>
    obtain ⟨rfl, hne, -⟩ := functionName_eq_some hfunction
    dsimp only
    rw [accessParts_eq hne, callParts_eq hne]
    rfl
  | none =>
    cases hproperty : propertyName token with
    | some name =>
      obtain ⟨rfl, hne, -⟩ := propertyName_eq_some hproperty
      exact congrArg exprOf (accessParts_eq hne)
    | none => rfl

/-- **Whatever the shape of a token, its pattern matches the texts searched for, where they
stand.** -/
theorem matches_exprOfTrimmed_iff {prefixes : List String} (hne : token ≠ []) :
    (exprOfTrimmed prefixes token).Matches before rest n ↔
      ∃ text ∈ searched (ofTrimmed prefixes token).1 token, n = text.length ∧
        ∃ after, rest = text ++ after ∧ Stands text before after.head? := by
  rw [exprOfTrimmed_eq]
  cases (ofTrimmed prefixes token).1 with
  | legacyType | literal =>
    rw [searched, exprOfTexts, matches_literalParts_iff hne]
    simp
  | propertyAccess =>
    rw [searched, exprOfTexts, matches_literalParts_iff (List.cons_ne_nil _ _)]
    simp
  | functionReference =>
    rw [searched, exprOfTexts, Expr.Matches, Expr.Matches,
      matches_literalParts_iff (List.cons_ne_nil _ _), matches_literalParts_iff (by simp)]
    simp

/-- What the compiled pattern of a token accepts. -/
theorem accepts_pattern_iff {prefixes : List String} {token : String} {r : Regex}
    (hne : Text.trim token.toList ≠ []) (hr : Regex.compile (pattern prefixes token) = some r) :
    Accepts r.program.code before rest r.program.entry n ↔
      ∃ text ∈ searched (shape prefixes token) (Text.trim token.toList), n = text.length ∧
        ∃ after, rest = text ++ after ∧ Stands text before after.head? := by
  rw [program_of_compile hr, expr, Program.accepts_ofExpr_iff (isPlain_exprOfTrimmed _ _),
    matches_exprOfTrimmed_iff hne, shape]

end TokenPattern
end Deprecation
