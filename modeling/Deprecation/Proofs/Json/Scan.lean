/-
# What is written is scanned

The scanner goes over a text that was written from a layout and finds the tokens of the layout
again.  A number is ended by what follows it, so after the last character of a number the
scanner may still stand in it; all other tokens are complete with their last character.  In a
layout a value always follows a bracket, a colon or a comma, so no value is taken for the rest
of a number.
-/
import Mathlib
import Deprecation.Json.Printer

namespace Deprecation

/-! ## Plain data -/

namespace Datum

mutual

/-- Whether all numbers of a datum are integers of 64 bits. -/
def isPlain : Datum → Bool
  | null => true
  | bool _ => true
  | int n => -2 ^ 63 ≤ n && n < 2 ^ 64
  | real _ => false
  | text _ => true
  | list items => arePlain items
  | table fields => fieldsArePlain fields

/-- Whether a list of data is plain. -/
def arePlain : List Datum → Bool
  | [] => true
  | d :: rest => isPlain d && arePlain rest

/-- Whether the values of fields are plain. -/
def fieldsArePlain : List (Option String × Datum) → Bool
  | [] => true
  | (_, d) :: rest => isPlain d && fieldsArePlain rest

end

end Datum

namespace Json

namespace Scan

/-! ## Running over a text -/

/-- Takes the characters of a text. -/
def run (p : Progress) (s : List Char) : Progress :=
  (s.map some).foldl step p

@[simp] lemma run_nil (p : Progress) : run p [] = p := rfl

@[simp] lemma run_cons (p : Progress) (c : Char) (s : List Char) :
    run p (c :: s) = run (step p (some c)) s := rfl

lemma run_append (p : Progress) (s s' : List Char) :
    run p (s ++ s') = run (run p s) s' := by
  rw [run, List.map_append, List.foldl_append, ← run, ← run]

/-- The scanner has taken these tokens, last first, and stands between tokens or behind the last
digit of a number. -/
inductive After : List Token → Progress → Prop
  | between (found : List Token) : After found (found, .between)
  | number (found : List Token) (spelling : List Char) (n : Numeral) (hn : n.complete = true) :
      After (.number spelling.reverse :: found) (found, .number spelling n)

variable {found : List Token} {p : Progress}

lemma After.finish (h : After found p) : finish p = some found.reverse := by
  cases h with
  | between => rfl
  | number found spelling n hn => rw [Scan.finish, if_pos hn]

/-- A character that continues no number starts what comes next. -/
lemma After.step (h : After found p) {c : Char} (hc : ∀ n : Numeral, n.next c = none) :
    step p (some c) = startToken found c := by
  cases h with
  | between => rfl
  | number found spelling n hn => simp only [Scan.step, hc, hn, if_true]

/-! ## Blanks and punctuation -/

lemma next_eq_none_of_isGap {c : Char} (hc : isGap c = true) (n : Numeral) :
    n.next c = none := by
  simp only [isGap, Bool.or_eq_true, decide_eq_true_eq] at hc
  rcases hc with ((rfl | rfl) | rfl) | rfl <;> cases n <;> rfl

lemma startToken_of_isGap {c : Char} (hc : isGap c = true) (found : List Token) :
    startToken found c = (found, .between) := by
  rw [startToken, if_pos hc]

lemma run_gaps (found : List Token) {s : List Char} (hs : ∀ c ∈ s, isGap c = true) :
    run (found, .between) s = (found, .between) := by
  induction s with
  | nil => rfl
  | cons c s ih =>
    have hc := hs c List.mem_cons_self
    rw [run_cons, (After.between found).step (next_eq_none_of_isGap hc),
      startToken_of_isGap hc, ih fun c' hc' => hs c' (List.mem_cons_of_mem c hc')]

lemma After.run_gaps (h : After found p) {s : List Char} (hs : ∀ c ∈ s, isGap c = true) :
    After found (run p s) := by
  cases s with
  | nil => exact h
  | cons c s =>
    have hc := hs c List.mem_cons_self
    rw [run_cons, h.step (next_eq_none_of_isGap hc), startToken_of_isGap hc,
      Scan.run_gaps found fun c' hc' => hs c' (List.mem_cons_of_mem c hc')]
    exact .between found

/-- A bracket, a colon or a comma. -/
def isMark : Token → Bool
  | .openTable | .closeTable | .openList | .closeList | .colon | .comma => true
  | .null | .bool _ | .text _ | .number _ => false

/-- A mark ends a number that stands before it. -/
lemma After.run_mark (h : After found p) {lead : List Char} (hlead : ∀ c ∈ lead, isGap c = true)
    {t : Token} (ht : isMark t = true) (rest : List Piece) :
    run p (spell ((lead, t) :: rest)) = run (t :: found, .between) (spell rest) := by
  have hmark : ∀ {q : Progress}, After found q → run q t.spelled = (t :: found, .between) := by
    intro q hq
    cases t with
    | openTable | closeTable | openList | closeList | colon | comma =>
      exact hq.step (by intro n; cases n <;> rfl)
    | null | bool b | text s | number spelling => cases ht
  rw [spell, List.flatMap_cons, ← spell, run_append, run_append, hmark (h.run_gaps hlead)]

/-! ## Strings -/

lemma hexValue?_hexDigit {n : Nat} (hn : n < 16) : hexValue? (hexDigit n) = some n := by
  have hall : ∀ n < 16, hexValue? (hexDigit n) = some n := by decide
  exact hall n hn

/-- A string that denotes a text so far. -/
def plainQuote (chars : List Char) : Quote := { chars }

lemma run_escaped (found : List Token) (chars : List Char) (c : Char) :
    run (found, .quote (plainQuote chars)) (escaped c)
      = (found, .quote (plainQuote (c :: chars))) := by
  unfold escaped
  split
  · next h => subst h; rfl
  split
  · next h => subst h; rfl
  split
  · next h => subst h; rfl
  split
  · next h => subst h; rfl
  split
  · next h => subst h; rfl
  split
  · next h => subst h; rfl
  split
  · next h => subst h; rfl
  split
  · next hquote hslash _ _ _ _ _ hlow =>
    -- a control character is written with the two digits of its code point
    have hhigh := hexValue?_hexDigit (show c.toNat / 16 < 16 by omega)
    have hdigit := hexValue?_hexDigit (show c.toNat % 16 < 16 by omega)
    have hcode : 16 * (16 * 0 + c.toNat / 16) + c.toNat % 16 = c.toNat := by omega
    have hunit : (plainQuote chars).unit c.toNat = plainQuote (c :: chars) := by
      rw [Quote.unit, if_neg (by omega), if_neg (by omega), Char.ofNat_toNat]
      rfl
    calc run (found, .quote (plainQuote chars))
          ['\\', 'u', '0', '0', hexDigit (c.toNat / 16), hexDigit (c.toNat % 16)]
        = run (found, .hex (plainQuote chars) 2 0)
            [hexDigit (c.toNat / 16), hexDigit (c.toNat % 16)] := rfl
      _ = (found, .quote ((plainQuote chars).unit
            (16 * (16 * 0 + c.toNat / 16) + c.toNat % 16))) := by
          simp only [run_cons, run_nil, step, hhigh, hdigit, Nat.reduceLeDiff, Nat.reduceSub,
            if_false, if_true, le_refl]
      _ = (found, .quote (plainQuote (c :: chars))) := by rw [hcode, hunit]
  · next hquote hslash _ _ _ _ _ hlow =>
    simp only [run_cons, run_nil, step, hquote, hslash, hlow, if_false]
    rfl

lemma run_flatMap_escaped (found : List Token) (chars s : List Char) :
    run (found, .quote (plainQuote chars)) (s.flatMap escaped)
      = (found, .quote (plainQuote (s.reverse ++ chars))) := by
  induction s generalizing chars with
  | nil => rfl
  | cons c s ih =>
    rw [List.flatMap_cons, run_append, run_escaped, ih, List.reverse_cons, List.append_assoc]
    rfl

lemma run_text (found : List Token) (s : Option String) :
    run (found, .between) (Token.text s).spelled = (.text s :: found, .between) := by
  cases s with
  | none => rfl
  | some s =>
    calc run (found, .between) (quoted s)
        = run (run (found, .quote (plainQuote [])) (s.toList.flatMap escaped)) ['"'] := by
          rw [quoted, ← run_append]
          rfl
      _ = (.text (plainQuote s.toList.reverse).close :: found, .between) := by
          rw [run_flatMap_escaped, List.append_nil]
          rfl
      _ = (.text (some s) :: found, .between) := by
          simp [Quote.close, plainQuote]

/-! ## Integers -/

/-- A positive number starts with no zero. -/
lemma head_toDigits {n : Nat} (hn : 0 < n) : ∃ c s, Nat.toDigits 10 n = c :: s ∧ c ≠ '0' := by
  induction n using Nat.strong_induction_on with
  | h n ih =>
    by_cases hsmall : n < 10
    · rw [Nat.toDigits_of_lt_base hsmall]
      refine ⟨_, _, rfl, ?_⟩
      interval_cases n <;> decide
    · obtain ⟨c, s, hs, hc⟩ := ih (n / 10) (by omega) (by omega)
      rw [Nat.toDigits_of_base_le (by decide) (by omega), hs]
      exact ⟨c, s ++ [Nat.digitChar (n % 10)], rfl, hc⟩

lemma run_whole (found : List Token) (spelling : List Char) {s : List Char}
    (hs : ∀ c ∈ s, c.isDigit = true) :
    run (found, .number spelling .whole) s = (found, .number (s.reverse ++ spelling) .whole) := by
  induction s generalizing spelling with
  | nil => rfl
  | cons c s ih =>
    have hc := hs c List.mem_cons_self
    have hstep : step (found, .number spelling .whole) (some c)
        = (found, .number (c :: spelling) .whole) := by
      simp only [step, Numeral.next, hc, if_true]
    rw [run_cons, hstep, ih _ fun c' hc' => hs c' (List.mem_cons_of_mem c hc'),
      List.reverse_cons, List.append_assoc]
    rfl

lemma startToken_of_isDigit (found : List Token) {c : Char} (hc : c.isDigit = true)
    (hzero : c ≠ '0') : startToken found c = (found, .number [c] .whole) := by
  have hne : ∀ x : Char, x.isDigit = false → c ≠ x := by
    rintro x hx rfl
    rw [hx] at hc
    cases hc
  have hstart : Numeral.start c = some .whole := by
    simp only [Numeral.start, hne '-' rfl, hzero, hc, if_false, if_true]
  simp only [startToken, isGap, hne ' ' rfl, hne '\n' rfl, hne '\r' rfl, hne '\t' rfl,
    hne '\x7b' rfl, hne '\x7d' rfl, hne '[' rfl, hne ']' rfl, hne ':' rfl, hne ',' rfl,
    hne '"' rfl, hne 'n' rfl, hne 't' rfl, hne 'f' rfl, decide_false, Bool.or_self,
    Bool.false_eq_true, if_false, hstart]

lemma run_integer (found : List Token) (n : Int) :
    After (.number (integer n) :: found) (run (found, .between) (integer n)) := by
  have hdigits : ∀ {m : Nat} {c s}, Nat.toDigits 10 m = c :: s →
      c.isDigit = true ∧ ∀ c' ∈ s, c'.isDigit = true := by
    intro m c s hs
    have hall : ∀ c' ∈ c :: s, c'.isDigit = true := fun c' hc' =>
      Nat.isDigit_of_mem_toDigits (by decide) (by decide) (hs ▸ hc')
    exact List.forall_mem_cons.mp hall
  rcases Nat.eq_zero_or_pos n.natAbs with hzero | hpos
  · rw [Int.natAbs_eq_zero.mp hzero]
    exact .number found ['0'] .zero rfl
  obtain ⟨c, s, hs, hc⟩ := head_toDigits hpos
  obtain ⟨hdigit, hrest⟩ := hdigits hs
  rw [integer, hs]
  split
  · have hstep : step (found, .number ['-'] .minus) (some c)
        = (found, .number [c, '-'] .whole) := by
      simp only [step, Numeral.next, hc, hdigit, if_false, if_true]
    have hrun : run (found, .between) ('-' :: c :: s)
        = (found, .number (s.reverse ++ [c, '-']) .whole) := by
      rw [← run_whole found [c, '-'] hrest, ← hstep]
      rfl
    have hspelling : (s.reverse ++ [c, '-']).reverse = '-' :: c :: s := by simp
    rw [hrun, ← hspelling]
    exact .number found _ .whole rfl
  · have hrun : run (found, .between) (c :: s)
        = (found, .number (s.reverse ++ [c]) .whole) := by
      rw [← run_whole found [c] hrest, ← startToken_of_isDigit found hdigit hc]
      rfl
    have hspelling : (s.reverse ++ [c]).reverse = c :: s := by simp
    rw [hrun, ← hspelling]
    exact .number found _ .whole rfl

/-! ## Layouts -/

/-- The tokens of a layout. -/
def tokensOf (pieces : List Piece) : List Token := pieces.map Prod.snd

@[simp] lemma tokensOf_nil : tokensOf [] = [] := rfl

@[simp] lemma tokensOf_cons (piece : Piece) (pieces : List Piece) :
    tokensOf (piece :: pieces) = piece.2 :: tokensOf pieces := rfl

@[simp] lemma tokensOf_append (a b : List Piece) :
    tokensOf (a ++ b) = tokensOf a ++ tokensOf b :=
  List.map_append

@[simp] lemma spell_nil : spell [] = [] := rfl

lemma spell_append (a b : List Piece) : spell (a ++ b) = spell a ++ spell b :=
  List.flatMap_append

lemma newLine_gaps (style : Style) (depth : Nat) : ∀ c ∈ style.newLine depth, isGap c = true := by
  intro c hc
  cases style with
  | compact => cases hc
  | indented =>
    rcases List.mem_cons.mp hc with rfl | hc
    · rfl
    · rw [List.eq_of_mem_replicate hc]
      rfl

lemma afterColon_gaps (style : Style) : ∀ c ∈ style.afterColon, isGap c = true := by
  intro c hc
  cases style with
  | compact => cases hc
  | indented =>
    rw [List.mem_singleton.mp hc]
    rfl

/-- A value after blanks is scanned like one without. -/
lemma run_lead (found : List Token) {lead : List Char} (hlead : ∀ c ∈ lead, isGap c = true)
    (t : Token) (rest : List Piece) :
    run (found, .between) (spell ((lead, t) :: rest))
      = run (run (found, .between) t.spelled) (spell rest) := by
  rw [spell, List.flatMap_cons, ← spell, run_append, run_append, run_gaps found hlead]

/-- A name, its colon and what follows. -/
lemma run_name (found : List Token) {lead : List Char} (hlead : ∀ c ∈ lead, isGap c = true)
    (name : Option String) (rest : List Piece) :
    run (found, .between) (spell ((lead, .text name) :: ([], .colon) :: rest))
      = run (.colon :: .text name :: found, .between) (spell rest) := by
  rw [run_lead found hlead, run_text,
    (After.between _).run_mark (List.forall_mem_nil _) rfl]

mutual

/-- The tokens of a layout are found, last first, behind what was found before. -/
theorem after_layout (style : Style) : ∀ d : Datum, d.isPlain = true → ∀ (depth : Nat)
    (lead : List Char), (∀ c ∈ lead, isGap c = true) → ∀ found : List Token,
      After ((tokensOf (layout style depth lead d)).reverse ++ found)
        (run (found, .between) (spell (layout style depth lead d)))
  | .null, _, depth, lead, hlead, found => by
    rw [layout, run_lead found hlead]
    exact .between _
  | .bool b, _, depth, lead, hlead, found => by
    rw [layout, run_lead found hlead]
    cases b <;> exact .between _
  | .int n, _, depth, lead, hlead, found => by
    rw [layout, run_lead found hlead]
    exact run_integer found n
  | .real spelling, hd, depth, lead, hlead, found => by
    cases hd
  | .text s, _, depth, lead, hlead, found => by
    rw [layout, run_lead found hlead, run_text]
    exact .between _
  | .list [], _, depth, lead, hlead, found => by
    rw [layout, run_lead found hlead]
    exact .between _
  | .list (d :: rest), hd, depth, lead, hlead, found => by
    obtain ⟨hd, hrest⟩ := Bool.and_eq_true_iff.mp hd
    have hitem := after_layout style d hd (depth + 1) _ (newLine_gaps style (depth + 1))
      (.openList :: found)
    have hitems := after_layoutItems style rest hrest (depth + 1) hitem
    rw [layout, List.cons_append, (After.between found).run_mark hlead rfl, spell_append,
      spell_append, run_append, run_append,
      hitems.run_mark (newLine_gaps style depth) rfl]
    simpa using After.between _
  | .table [], _, depth, lead, hlead, found => by
    rw [layout, run_lead found hlead]
    exact .between _
  | .table ((name, d) :: rest), hd, depth, lead, hlead, found => by
    obtain ⟨hd, hrest⟩ := Bool.and_eq_true_iff.mp hd
    have hfield := after_layout style d hd (depth + 1) _ (afterColon_gaps style)
      (.colon :: .text name :: .openTable :: found)
    have hfields := after_layoutFields style rest hrest (depth + 1) hfield
    rw [layout, List.cons_append, (After.between found).run_mark hlead rfl, List.cons_append,
      List.cons_append, run_name _ (newLine_gaps style (depth + 1)), spell_append, spell_append,
      run_append, run_append, hfields.run_mark (newLine_gaps style depth) rfl]
    simpa using After.between _

theorem after_layoutItems (style : Style) : ∀ items : List Datum, Datum.arePlain items = true →
    ∀ (depth : Nat) {found : List Token} {p : Progress}, After found p →
      After ((tokensOf (layoutItems style depth items)).reverse ++ found)
        (run p (spell (layoutItems style depth items)))
  | [], _, depth, found, p, hp => by
    rw [layoutItems]
    exact hp
  | d :: rest, hitems, depth, found, p, hp => by
    obtain ⟨hd, hrest⟩ := Bool.and_eq_true_iff.mp hitems
    have hitem := after_layout style d hd depth _ (newLine_gaps style depth)
      (.comma :: found)
    have hrest := after_layoutItems style rest hrest depth hitem
    rw [layoutItems, List.cons_append, hp.run_mark (List.forall_mem_nil _) rfl, spell_append,
      run_append]
    simpa using hrest

theorem after_layoutFields (style : Style) : ∀ fields : List (Option String × Datum),
    Datum.fieldsArePlain fields = true → ∀ (depth : Nat) {found : List Token} {p : Progress},
      After found p →
        After ((tokensOf (layoutFields style depth fields)).reverse ++ found)
          (run p (spell (layoutFields style depth fields)))
  | [], _, depth, found, p, hp => by
    rw [layoutFields]
    exact hp
  | (name, d) :: rest, hfields, depth, found, p, hp => by
    obtain ⟨hd, hrest⟩ := Bool.and_eq_true_iff.mp hfields
    have hfield := after_layout style d hd depth _ (afterColon_gaps style)
      (.colon :: .text name :: .comma :: found)
    have hrest := after_layoutFields style rest hrest depth hfield
    rw [layoutFields, List.cons_append, hp.run_mark (List.forall_mem_nil _) rfl,
      List.cons_append, List.cons_append, run_name _ (newLine_gaps style depth),
      spell_append, run_append]
    simpa using hrest

end

end Scan

/-- **What is written is scanned.** -/
theorem tokens_write (style : Style) {d : Datum} (hd : d.isPlain = true) :
    tokens ((write style d).toList.map some) = some (Scan.tokensOf (layout style 0 [] d)) := by
  have hafter := Scan.after_layout style d hd 0 [] (List.forall_mem_nil _) []
  rw [write, String.toList_ofList, tokens, ← Scan.run, hafter.finish]
  simp

end Json
end Deprecation
