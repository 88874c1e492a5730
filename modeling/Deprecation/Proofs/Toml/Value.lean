/-
# A written value is read

Truth values, integers of 64 bits with a sign, strings, and lists of these are the values that have
a written form.  Where a value stands, a comma, a bracket or the end of the line follows it, and so
a reader finds its end: a number is not taken further, and a string is not taken for one on several
lines.

A list of several items has blanks before each of them, which the reader skips.  No written value
begins with a blank, with a comment or with the bracket that would close the list.
-/
import Mathlib
import Deprecation.Datum.Decode
import Deprecation.Proofs.Json.Scan
import Deprecation.Proofs.Toml.Quoted
import Deprecation.Toml.Printer

namespace Deprecation.Toml

/-! ## Where a scan stops -/

section Stops

variable {p : Char → Bool} {s rest : List Char}

lemma takeWhile_append_of_stop (hs : ∀ c ∈ s, p c = true) (hrest : ∀ c ∈ rest.head?, p c = false) :
    (s ++ rest).takeWhile p = s := by
  rw [List.takeWhile_append_of_pos hs]
  cases rest with
  | nil => exact List.append_nil s
  | cons c rest => rw [List.takeWhile_cons_of_neg (by simp [hrest c rfl]), List.append_nil]

lemma dropWhile_append_of_stop (hs : ∀ c ∈ s, p c = true) (hrest : ∀ c ∈ rest.head?, p c = false) :
    (s ++ rest).dropWhile p = rest := by
  rw [List.dropWhile_append_of_pos hs]
  cases rest with
  | nil => rfl
  | cons c rest => rw [List.dropWhile_cons_of_neg (by simp [hrest c rfl])]

end Stops

/-! ## What stands around a value -/

/-- What may follow a value: the end of the line, a comma or a closing bracket. -/
def Ends (rest : List Char) : Prop := ∃ c t, rest = c :: t ∧ (c = '\n' ∨ c = ',' ∨ c = ']')

lemma ends_cons {c : Char} (h : c = '\n' ∨ c = ',' ∨ c = ']') (t : List Char) : Ends (c :: t) :=
  ⟨c, t, rfl, h⟩

/-- A text that begins with something that is not skipped between values and closes no list. -/
def Solid (s : List Char) : Prop :=
  ∃ c t, s = c :: t ∧ c ≠ ' ' ∧ c ≠ '\t' ∧ c ≠ '#' ∧ c ≠ '\n' ∧ c ≠ '\r' ∧ c ≠ ']'

lemma solid_cons {c : Char}
    (h : c ≠ ' ' ∧ c ≠ '\t' ∧ c ≠ '#' ∧ c ≠ '\n' ∧ c ≠ '\r' ∧ c ≠ ']') (t : List Char) :
    Solid (c :: t) :=
  ⟨c, t, rfl, h⟩

lemma Solid.append {s : List Char} (h : Solid s) (t : List Char) : Solid (s ++ t) := by
  obtain ⟨c, u, rfl, hc⟩ := h
  exact solid_cons hc (u ++ t)

/-- Between values, a character at which skipping stops. -/
lemma dropLines_cons {c : Char}
    (h : c ≠ ' ' ∧ c ≠ '\t' ∧ c ≠ '#' ∧ c ≠ '\n' ∧ c ≠ '\r') (n : Nat) (t : List Char) :
    dropLines n (c :: t) = c :: t := by
  obtain ⟨hspace, htab, hcomment, hline, hreturn⟩ := h
  cases n with
  | zero => rfl
  | succ n =>
    have hspaces : dropSpaces (c :: t) = c :: t :=
      List.dropWhile_cons_of_neg (by simp [isSpace, hspace, htab])
    have hnewline : newline? (dropComment (c :: t)) = none := by
      unfold dropComment
      split
      · next heq =>
        cases heq
        exact absurd rfl hcomment
      · unfold newline?
        split
        · next heq =>
          cases heq
          exact absurd rfl hline
        · next heq =>
          cases heq
          exact absurd rfl hreturn
        · rfl
    rw [dropLines, hspaces, hnewline]

lemma Solid.dropLines {s : List Char} (h : Solid s) (n : Nat) : dropLines n s = s := by
  obtain ⟨c, t, rfl, hspace, htab, hcomment, hline, hreturn, -⟩ := h
  exact dropLines_cons ⟨hspace, htab, hcomment, hline, hreturn⟩ n t

lemma dropLines_newline (n : Nat) (s : List Char) :
    dropLines (n + 1) ('\n' :: s) = dropLines n s := rfl

/-- The indent of an item is skipped. -/
lemma dropLines_spaces (n : Nat) (s : List Char) :
    dropLines (n + 1) (' ' :: ' ' :: ' ' :: ' ' :: s) = dropLines (n + 1) s := rfl

/-! ## Truth values and integers -/

lemma run_append {r rest : List Char} (hr : ∀ c ∈ r, inRun c = true) (hrest : Ends rest) :
    run (r ++ rest) = (r, rest) := by
  obtain ⟨c, t, rfl, hc⟩ := hrest
  have hstop : ∀ x ∈ (c :: t).head?, inRun x = false := by
    rintro x hx
    cases hx
    rcases hc with rfl | rfl | rfl <;> rfl
  unfold run
  rw [takeWhile_append_of_stop hr hstop, dropWhile_append_of_stop hr hstop]
  dsimp only
  split
  · next heq =>
    cases heq
    rcases hc with h | h | h <;> cases h
  · rfl

lemma digits_of_isDigit {s : List Char} (hs : s ≠ []) (h : ∀ c ∈ s, c.isDigit = true) :
    digits Char.isDigit s = some s := by
  induction s with
  | nil => exact absurd rfl hs
  | cons c s ih =>
    obtain ⟨hc, hrest⟩ := List.forall_mem_cons.mp h
    cases s with
    | nil => rw [digits, if_pos hc]
    | cons d s =>
      have hd : d ≠ '_' := by
        rintro rfl
        exact absurd (hrest '_' List.mem_cons_self) (by decide)
      rw [digits, if_pos hc, ih (by simp) hrest, Option.map_some]
      · exact List.cons_ne_nil _ _
      · exact fun rest heq => hd (List.cons.inj heq).1

lemma numberOf_of_isDigit {s : List Char} (h : ∀ c ∈ s, c.isDigit = true) :
    numberOf 10 s = Nat.ofDigitChars 10 s 0 := by
  rw [numberOf, Nat.ofDigitChars]
  refine List.foldl_ext _ _ 0 fun n c hc => ?_
  rw [if_pos (h c hc)]
  rfl

lemma isDigit_of_mem_toDigits {n : Nat} : ∀ c ∈ Nat.toDigits 10 n, c.isDigit = true :=
  fun _ hc => Nat.isDigit_of_mem_toDigits (by decide) (by decide) hc

lemma decimalDigits_toDigits (n : Nat) :
    decimalDigits (Nat.toDigits 10 n) = some (Nat.toDigits 10 n) := by
  have hdigits : digits Char.isDigit (Nat.toDigits 10 n) = some (Nat.toDigits 10 n) :=
    digits_of_isDigit Nat.toDigits_ne_nil isDigit_of_mem_toDigits
  unfold decimalDigits
  split
  · next heq =>
    -- only zero begins with a zero
    rcases Nat.eq_zero_or_pos n with rfl | hn
    · cases heq
    · obtain ⟨c, s, hs, hc⟩ := Json.Scan.head_toDigits hn
      rw [hs] at heq
      cases heq
      exact absurd rfl hc
  · exact hdigits

lemma integer_integer {n : Int} (h : inRange n = some n) : integer (Json.integer n) = some n := by
  have hvalue : numberOf 10 (Nat.toDigits 10 n.natAbs) = n.natAbs := by
    rw [numberOf_of_isDigit isDigit_of_mem_toDigits]
    exact Nat.ofDigitChars_toDigits (by decide) (by decide)
  rw [Json.integer]
  split
  · next hneg =>
    have hminus : -((n.natAbs : Nat) : Int) = n := by omega
    show (do
      let n' := numberOf 10 (← decimalDigits (Nat.toDigits 10 n.natAbs))
      inRange (if true then -(n' : Int) else n')) = _
    rw [decimalDigits_toDigits, Option.bind_eq_bind, Option.bind_some, hvalue]
    show inRange (-((n.natAbs : Nat) : Int)) = some n
    rw [hminus, h]
  · next hpos =>
    have hplus : ((n.natAbs : Nat) : Int) = n := by omega
    have hdigits : ∀ c ∈ Nat.toDigits 10 n.natAbs, c.isDigit = true := isDigit_of_mem_toDigits
    have hsigned : signed (Nat.toDigits 10 n.natAbs) = (false, Nat.toDigits 10 n.natAbs) := by
      unfold signed
      split
      · next heq => exact absurd (hdigits '-' (heq ▸ List.mem_cons_self)) (by decide)
      · next heq => exact absurd (hdigits '+' (heq ▸ List.mem_cons_self)) (by decide)
      · rfl
    unfold integer
    split
    · next heq => exact absurd (hdigits 'x' (by rw [heq]; simp)) (by decide)
    · next heq => exact absurd (hdigits 'o' (by rw [heq]; simp)) (by decide)
    · next heq => exact absurd (hdigits 'b' (by rw [heq]; simp)) (by decide)
    · rw [hsigned]
      dsimp only
      rw [decimalDigits_toDigits, Option.bind_eq_bind, Option.bind_some, hvalue,
        if_neg Bool.false_ne_true, hplus, h]

lemma minus_or_isDigit {n : Int} {c : Char} (hc : c ∈ Json.integer n) :
    c = '-' ∨ c.isDigit = true := by
  rw [Json.integer] at hc
  split at hc
  · rcases List.mem_cons.mp hc with rfl | hc
    · exact .inl rfl
    · exact .inr (isDigit_of_mem_toDigits c hc)
  · exact .inr (isDigit_of_mem_toDigits c hc)

/-- An integer is written as no word. -/
lemma scalar_integer {n : Int} (h : inRange n = some n) :
    scalar (Json.integer n) = some (.int n) := by
  have hletter : 'e' ∉ Json.integer n := fun hmem =>
    absurd (minus_or_isDigit hmem) (by decide)
  have htrue : Json.integer n ≠ "true".toList := fun heq => hletter (by rw [heq]; decide)
  have hfalse : Json.integer n ≠ "false".toList := fun heq => hletter (by rw [heq]; decide)
  rw [scalar, if_neg htrue, if_neg hfalse, integer_integer h]

/-! ## Values -/

/-- A text from which a reader reads a datum, wherever a value may stand. -/
structure Written (read : Read Datum) (text : List Char) (d : Datum) : Prop where
  solid : Solid text
  reads : ∀ rest, Ends rest → read (text ++ rest) = some (d, rest)

lemma Ends.head?_ne {rest : List Char} (h : Ends rest) {c : Char}
    (hc : c ≠ '\n' ∧ c ≠ ',' ∧ c ≠ ']') : rest.head? ≠ some c := by
  obtain ⟨x, t, rfl, hx⟩ := h
  intro heq
  cases heq
  rcases hx with h | h | h
  · exact hc.1 h
  · exact hc.2.1 h
  · exact hc.2.2 h

/-- A run that begins with no mark of another kind of value. -/
lemma written_run {n : Nat} {r : List Char} {d : Datum} (hr : r ≠ [])
    (hrun : ∀ x ∈ r, inRun x = true) (hscalar : scalar r = some d) : Written (value n) r d := by
  obtain ⟨c, r, rfl⟩ := List.exists_cons_of_ne_nil hr
  have hne : ∀ x : Char, inRun x = false → c ≠ x := by
    rintro x hx rfl
    rw [hrun c List.mem_cons_self] at hx
    cases hx
  constructor
  · exact solid_cons ⟨hne ' ' rfl, hne '\t' rfl, hne '#' rfl, hne '\n' rfl, hne '\r' rfl,
      hne ']' rfl⟩ r
  · intro rest hrest
    have hread : value n (c :: r ++ rest) = readScalar (c :: r ++ rest) := by
      rw [List.cons_append]
      unfold value
      split
      · next heq => exact absurd (List.cons.inj heq).1 (hne '"' rfl)
      · next heq => exact absurd (List.cons.inj heq).1 (hne '\'' rfl)
      · next heq => exact absurd (List.cons.inj heq).1 (hne '[' rfl)
      · next heq => exact absurd (List.cons.inj heq).1 (hne '\x7b' rfl)
      · rfl
    rw [hread, readScalar, run_append hrun hrest, hscalar, Option.map_some]

lemma exists_quote_eq_cons (s : List Char) : ∃ c t, quote s = c :: t ∧ (c = '"' ∨ c = '\'') := by
  rw [quote]
  cases quotingOf s
  · exact ⟨'"', _, rfl, .inl rfl⟩
  · exact ⟨'\'', _, rfl, .inr rfl⟩
  · exact ⟨'"', _, rfl, .inl rfl⟩
  · exact ⟨'\'', _, rfl, .inr rfl⟩

lemma value_of_quoted {c : Char} {s t rest : List Char} (hc : c = '"' ∨ c = '\'')
    (h : quoted (c :: s) = some (t, rest)) (n : Nat) :
    value n (c :: s) = some (.str (String.ofList t), rest) := by
  rcases hc with rfl | rfl
  · rw [value, h]
    rfl
  · rw [value, h]
    rfl

lemma written_quote (n : Nat) (s : String) : Written (value n) (quote s.toList) (.str s) := by
  obtain ⟨c, t, ht, hc⟩ := exists_quote_eq_cons s.toList
  constructor
  · rw [ht]
    refine solid_cons ?_ t
    rcases hc with rfl | rfl <;> decide
  · intro rest hrest
    have hstring : quoted (quote s.toList ++ rest) = some (s.toList, rest) :=
      quoted_quote (hrest.head?_ne (by decide)) (hrest.head?_ne (by decide)) s.toList
    rw [ht, List.cons_append] at hstring ⊢
    rw [value_of_quoted hc hstring, String.ofList_toList]

/-! ## Lists -/

section Lists

variable {read : Read Datum} {s t rest : List Char} {d : Datum}

lemma items_close (n : Nat) (hs : dropLines s.length s = ']' :: rest) :
    items read (n + 1) s = some ([], rest) := by
  rw [items, hs]
  rfl

/-- An item is no closing bracket, so it is read. -/
lemma items_of_written (h : Written read t d) (n : Nat) (hs : dropLines s.length s = t ++ rest)
    (hrest : Ends rest) :
    items read (n + 1) s =
      match dropLines rest.length rest with
      | ',' :: rest => do
        let (others, rest) ← items read n rest
        some (d :: others, rest)
      | ']' :: rest => some ([d], rest)
      | _ => none := by
  have hread := h.reads rest hrest
  obtain ⟨c, u, rfl, -, -, -, -, -, hc⟩ := h.solid
  rw [List.cons_append] at hs hread
  rw [items, hs]
  split
  · next heq => exact absurd (List.cons.inj heq).1 hc
  · rw [hread]
    rfl

lemma items_comma (h : Written read t d) (n : Nat)
    (hs : dropLines s.length s = t ++ ',' :: rest) :
    items read (n + 1) s = (items read n rest).map fun p => (d :: p.1, p.2) := by
  rw [items_of_written h n hs (ends_cons (by decide) rest), dropLines_cons (by decide)]
  show (items read n rest).bind (fun p => some (d :: p.1, p.2)) = _
  rw [Option.map_eq_bind]
  rfl

lemma items_last (h : Written read t d) (n : Nat)
    (hs : dropLines s.length s = t ++ ']' :: rest) :
    items read (n + 1) s = some ([d], rest) := by
  rw [items_of_written h n hs (ends_cons (by decide) rest), dropLines_cons (by decide)]
  rfl

/-- Items on lines of their own, up to the closing bracket on the line behind them. -/
lemma items_itemLines {ts : List (List Char)} {ds : List Datum}
    (h : List.Forall₂ (Written read) ts ds) {n : Nat} (hn : ds.length < n) :
    items read n (itemLines ts ++ '\n' :: ']' :: rest) = some (ds, rest) := by
  induction h generalizing n with
  | nil =>
    obtain ⟨n, rfl⟩ := Nat.exists_eq_add_of_lt hn
    exact items_close _ (dropLines_cons (by decide) _ rest)
  | @cons t d ts ds ht hts ih =>
    obtain ⟨n, rfl⟩ := Nat.exists_eq_succ_of_ne_zero (Nat.ne_zero_of_lt hn)
    have hlines : itemLines (t :: ts) ++ '\n' :: ']' :: rest
        = '\n' :: ' ' :: ' ' :: ' ' :: ' ' ::
          (t ++ ',' :: (itemLines ts ++ '\n' :: ']' :: rest)) := by
      simp [itemLines]
    have hskip : dropLines (itemLines (t :: ts) ++ '\n' :: ']' :: rest).length
        (itemLines (t :: ts) ++ '\n' :: ']' :: rest)
          = t ++ ',' :: (itemLines ts ++ '\n' :: ']' :: rest) := by
      rw [hlines, List.length_cons, List.length_cons, dropLines_newline, dropLines_spaces,
        (ht.solid.append _).dropLines]
    rw [items_comma ht n hskip, ih (by simpa using hn), Option.map_some]

lemma length_le_itemLines (ts : List (List Char)) : ts.length ≤ (itemLines ts).length := by
  induction ts with
  | nil => exact le_rfl
  | cons t ts ih =>
    rw [itemLines, List.flatMap_cons, List.length_append, ← itemLines, List.length_cons,
      List.length_append, List.length_singleton]
    omega

/-- The items of a list are read up to its closing bracket. -/
lemma items_listText {ts : List (List Char)} {ds : List Datum}
    (h : List.Forall₂ (Written read) ts ds) :
    ∃ inner, listText ts = '[' :: inner ∧
      ∀ rest, items read ((inner ++ rest).length + 1) (inner ++ rest) = some (ds, rest) := by
  match ts, ds, h with
  | [], [], .nil =>
    exact ⟨[']'], rfl, fun rest => items_close _ (dropLines_cons (by decide) _ rest)⟩
  | [t], [d], .cons ht .nil =>
    refine ⟨t ++ [']'], rfl, fun rest => ?_⟩
    have hinner : t ++ [']'] ++ rest = t ++ ']' :: rest := by simp
    rw [hinner]
    exact items_last ht _ ((ht.solid.append _).dropLines _)
  | t :: t' :: ts, d :: d' :: ds, h =>
    refine ⟨itemLines (t :: t' :: ts) ++ ['\n', ']'], rfl, fun rest => ?_⟩
    have hinner : itemLines (t :: t' :: ts) ++ ['\n', ']'] ++ rest
        = itemLines (t :: t' :: ts) ++ '\n' :: ']' :: rest := by simp
    rw [hinner]
    refine items_itemLines h ?_
    have hlength := h.length_eq
    have hle := length_le_itemLines (t :: t' :: ts)
    rw [List.length_append]
    omega

end Lists

/-! ## Values with a written form -/

lemma eq_of_inRange {m n : Int} (h : inRange m = some n) : n = m := by
  unfold inRange at h
  split at h
  · exact (Option.some.inj h).symm
  · cases h

lemma written_bool (n : Nat) (b : Bool) :
    Written (value n) (if b then "true".toList else "false".toList) (.bool b) := by
  cases b with
  | true =>
    rw [if_pos rfl]
    exact written_run (by decide) (by simp [inRun]) (by rw [scalar, if_pos rfl])
  | false =>
    rw [if_neg Bool.false_ne_true]
    exact written_run (by decide) (by simp [inRun])
      (by rw [scalar, if_neg (by decide), if_pos rfl])

lemma written_integer (k : Nat) {n : Int} (h : inRange n = some n) :
    Written (value k) (Json.integer n) (.int n) := by
  have hrun : ∀ c ∈ Json.integer n, inRun c = true := by
    intro c hc
    rcases minus_or_isDigit hc with rfl | hdigit
    · rfl
    · simp [inRun, Char.isAlphanum, hdigit]
  have hne : Json.integer n ≠ [] := by
    rw [Json.integer]
    split
    · exact List.cons_ne_nil _ _
    · exact Nat.toDigits_ne_nil
  exact written_run hne hrun (scalar_integer h)

mutual

/-- **A written value is read**, unless lists are nested too deep in it. -/
theorem written_valueText : ∀ (d : Datum) (n : Nat) (t : List Char), valueText d = some t →
    d.isPlain = true → d.depth ≤ n → Written (value n) t d
  | .bool b, n, t, ht, _, _ => by
    cases ht
    exact written_bool n b
  | .int k, n, t, ht, _, _ => by
    obtain ⟨m, hm, rfl⟩ := Option.map_eq_some_iff.mp ht
    have heq := eq_of_inRange hm
    subst heq
    exact written_integer n hm
  | .real _, _, _, _, hplain, _ => by cases hplain
  | .text none, _, _, ht, _, _ => by cases ht
  | .text (some s), n, t, ht, _, _ => by
    cases ht
    exact written_quote n s
  | .list ds, n, t, ht, hplain, hdepth => by
    obtain ⟨ts, hts, rfl⟩ := Option.map_eq_some_iff.mp ht
    obtain ⟨n, rfl⟩ := Nat.exists_eq_succ_of_ne_zero (Nat.ne_zero_of_lt hdepth)
    have hitems := written_itemTexts ds n ts hts hplain (Nat.le_of_succ_le_succ hdepth)
    obtain ⟨inner, hinner, hread⟩ := items_listText hitems
    rw [hinner]
    refine ⟨solid_cons (by decide) inner, fun rest _ => ?_⟩
    rw [List.cons_append, value]
    dsimp only
    rw [hread, Option.map_some]
  | .null, _, _, ht, _, _ => by cases ht
  | .table _, _, _, ht, _, _ => by cases ht

theorem written_itemTexts : ∀ (ds : List Datum) (n : Nat) (ts : List (List Char)),
    itemTexts ds = some ts → Datum.arePlain ds = true → Datum.depthItems ds ≤ n →
      List.Forall₂ (Written (value n)) ts ds
  | [], _, _, hts, _, _ => by
    cases hts
    exact .nil
  | d :: ds, n, ts, hts, hplain, hdepth => by
    obtain ⟨t, ht, hts⟩ := Option.bind_eq_some_iff.mp hts
    obtain ⟨others, hothers, hts⟩ := Option.bind_eq_some_iff.mp hts
    cases hts
    obtain ⟨hd, hds⟩ := Bool.and_eq_true_iff.mp hplain
    obtain ⟨hfirst, hrest⟩ := max_le_iff.mp hdepth
    exact .cons (written_valueText d n t ht hd hfirst)
      (written_itemTexts ds n others hothers hds hrest)

end

end Deprecation.Toml
