/-
# Written statements are read

A text is written a statement to a line, with an empty line before a header, and it is read a
statement at a time.  A key ends at the first character that is neither part of it nor a point:
at the bracket of a header, or at the blank before the equals sign of a pair.  So each statement is
read up to the end of its line, whatever its key is, and the text as a whole gives back all
statements.

Keys have less than 80 parts and lists are nested less than 80 deep; statements beyond that are
written, but they are not read.
-/
import Mathlib
import Deprecation.Proofs.Toml.Value

namespace Deprecation.Toml

variable {rest : List Char}

/-! ## Keys -/

lemma quotedLine_basic (s rest : List Char) :
    quotedLine (quoteAs s .basic ++ rest) = some (s, rest) := by
  have hline : quoteAs s .basic ++ rest = '"' :: (s.flatMap written ++ '"' :: rest) := by
    simp [quoteAs]
  rw [hline]
  exact basic_written s [] rest

/-- The first character of a part of a key. -/
lemma exists_keyPartText_eq_cons (part : String) :
    ∃ c t, keyPartText part = c :: t ∧ (isBare c = true ∨ c = '"') := by
  rw [keyPartText]
  split
  · next h =>
    obtain ⟨hne, hbare⟩ := h
    obtain ⟨c, t, hcons⟩ := List.exists_cons_of_ne_nil hne
    rw [hcons] at hbare ⊢
    exact ⟨c, t, rfl, .inl (List.all_eq_true.mp hbare c List.mem_cons_self)⟩
  · exact ⟨'"', _, rfl, .inr rfl⟩

lemma ne_of_isBare_or_quote {c x : Char} (hc : isBare c = true ∨ c = '"') (hx : isBare x = false)
    (hquote : x ≠ '"') : c ≠ x := by
  rintro rfl
  rcases hc with hc | rfl
  · rw [hc] at hx
    cases hx
  · exact hquote rfl

lemma keyPart_bare {part : List Char} (hne : part ≠ []) (hbare : ∀ c ∈ part, isBare c = true)
    (hrest : ∀ c ∈ rest.head?, isBare c = false) : keyPart (part ++ rest) = some (part, rest) := by
  have hmark : ∀ {x t}, isBare x = false → part ++ rest ≠ x :: t := by
    intro x t hx heq
    obtain ⟨c, u, rfl⟩ := List.exists_cons_of_ne_nil hne
    cases heq
    rw [hbare x List.mem_cons_self] at hx
    cases hx
  unfold keyPart
  split
  · next heq => exact absurd heq (hmark rfl)
  · next heq => exact absurd heq (hmark rfl)
  · dsimp only
    rw [takeWhile_append_of_stop hbare hrest, dropWhile_append_of_stop hbare hrest,
      if_neg (by simpa using hne)]

lemma keyPart_keyPartText (part : String) (hrest : ∀ c ∈ rest.head?, isBare c = false) :
    keyPart (keyPartText part ++ rest) = some (part.toList, rest) := by
  rw [keyPartText]
  split
  · next h => exact keyPart_bare h.1 (List.all_eq_true.mp h.2) hrest
  · have hquote : ∃ t, quoteAs part.toList .basic ++ rest = '"' :: t := ⟨_, rfl⟩
    obtain ⟨t, ht⟩ := hquote
    rw [ht, keyPart, ← ht, quotedLine_basic]

lemma dropSpaces_cons {c : Char} (h : c ≠ ' ' ∧ c ≠ '\t') (t : List Char) :
    dropSpaces (c :: t) = c :: t :=
  List.dropWhile_cons_of_neg (by simp [isSpace, h.1, h.2])

lemma dropSpaces_keyPartText (part : String) (t : List Char) :
    dropSpaces (keyPartText part ++ t) = keyPartText part ++ t := by
  obtain ⟨c, u, hcons, hc⟩ := exists_keyPartText_eq_cons part
  rw [hcons, List.cons_append]
  exact dropSpaces_cons ⟨ne_of_isBare_or_quote hc rfl (by decide),
    ne_of_isBare_or_quote hc rfl (by decide)⟩ _

/-- What may follow a key. -/
structure EndsKey (rest : List Char) : Prop where
  bare : ∀ c ∈ rest.head?, isBare c = false
  point : (dropSpaces rest).head? ≠ some '.'

lemma keyUpTo_last (part : String) (hrest : EndsKey rest) (n : Nat) :
    keyUpTo (n + 1) (keyPartText part ++ rest) = some (⟨[], part⟩, dropSpaces rest) := by
  rw [keyUpTo, dropSpaces_keyPartText, keyPart_keyPartText part hrest.bare, Option.bind_eq_bind,
    Option.bind_some]
  dsimp only
  split
  · next heq => exact absurd (by rw [heq]; rfl) hrest.point
  · rw [String.ofList_toList]

lemma keyUpTo_point (part : String) (n : Nat) (t : List Char) :
    keyUpTo (n + 1) (keyPartText part ++ '.' :: t)
      = (keyUpTo n t).map fun p => (⟨part :: p.1.front, p.1.last⟩, p.2) := by
  have hpoint : ∀ c ∈ ('.' :: t).head?, isBare c = false := by
    rintro c hc
    cases hc
    rfl
  rw [keyUpTo, dropSpaces_keyPartText, keyPart_keyPartText part hpoint, Option.bind_eq_bind,
    Option.bind_some]
  dsimp only
  rw [dropSpaces_cons (by decide), String.ofList_toList, Option.map_eq_bind]
  rfl

/-- **A written key is read**, unless it has too many parts. -/
theorem keyUpTo_keyText (front : List String) (last : String) {n : Nat} (hn : front.length < n)
    (hrest : EndsKey rest) :
    keyUpTo n (keyText ⟨front, last⟩ ++ rest) = some (⟨front, last⟩, dropSpaces rest) := by
  induction front generalizing n with
  | nil =>
    obtain ⟨n, rfl⟩ := Nat.exists_eq_succ_of_ne_zero (Nat.ne_zero_of_lt hn)
    exact keyUpTo_last last hrest n
  | cons part front ih =>
    obtain ⟨n, rfl⟩ := Nat.exists_eq_succ_of_ne_zero (Nat.ne_zero_of_lt hn)
    have hcons : keyText ⟨part :: front, last⟩ ++ rest
        = keyPartText part ++ '.' :: (keyText ⟨front, last⟩ ++ rest) := by
      simp [keyText]
    rw [hcons, keyUpTo_point, ih (by simpa using hn), Option.map_some]

lemma key_keyText {k : Key} (hk : k.front.length < maxNesting - 1) (hrest : EndsKey rest) :
    key (keyText k ++ rest) = some (k, dropSpaces rest) :=
  keyUpTo_keyText k.front k.last hk hrest

lemma exists_keyText_eq_cons (k : Key) :
    ∃ c t, keyText k = c :: t ∧ (isBare c = true ∨ c = '"') := by
  obtain ⟨front, last⟩ := k
  cases front with
  | nil => exact exists_keyPartText_eq_cons last
  | cons part front =>
    obtain ⟨c, t, hcons, hc⟩ := exists_keyPartText_eq_cons part
    refine ⟨c, t ++ '.' :: keyText ⟨front, last⟩, ?_, hc⟩
    simp [keyText, hcons]

/-! ## Statements -/

/-- Whether a written statement can be read: neither its key nor its value is too deep. -/
def Statement.Fits : Statement → Prop
  | .header k | .element k => k.front.length < maxNesting - 1
  | .pair k d =>
    k.front.length < maxNesting - 1 ∧ d.isPlain = true ∧ d.depth ≤ maxNesting - 1

/-- A text from which a statement is read, if the line ends there. -/
structure Line (line : List Char) (st : Statement) : Prop where
  solid : Solid line
  unmarked : line.head? ≠ some '\uFEFF'
  reads : ∀ rest, statement (line ++ '\n' :: rest) = some (st, '\n' :: rest)

lemma endsKey_bracket (t : List Char) : EndsKey (']' :: t) where
  bare := by
    rintro c hc
    cases hc
    rfl
  point := by
    rw [dropSpaces_cons (by decide)]
    simp

lemma line_header {k : Key} (hk : k.front.length < maxNesting - 1) :
    Line ('[' :: (keyText k ++ [']'])) (.header k) where
  solid := solid_cons (by decide) _
  unmarked := by simp
  reads rest := by
    obtain ⟨c, t, hcons, hc⟩ := exists_keyText_eq_cons k
    have hbracket : c ≠ '[' := ne_of_isBare_or_quote hc rfl (by decide)
    have hline : '[' :: (keyText k ++ [']']) ++ '\n' :: rest
        = '[' :: (keyText k ++ ']' :: '\n' :: rest) := by simp
    rw [hline, statement]
    unfold header
    split
    · next heq =>
      rw [hcons] at heq
      exact absurd (List.cons.inj heq).1 hbracket
    · rw [key_keyText hk (endsKey_bracket _), dropSpaces_cons (by decide)]
      rfl

lemma line_element {k : Key} (hk : k.front.length < maxNesting - 1) :
    Line ('[' :: '[' :: (keyText k ++ [']', ']'])) (.element k) where
  solid := solid_cons (by decide) _
  unmarked := by simp
  reads rest := by
    have hline : '[' :: '[' :: (keyText k ++ [']', ']']) ++ '\n' :: rest
        = '[' :: '[' :: (keyText k ++ ']' :: ']' :: '\n' :: rest) := by simp
    rw [hline, statement, header, key_keyText hk (endsKey_bracket _), dropSpaces_cons (by decide)]
    rfl

lemma endsKey_equals (t : List Char) : EndsKey (' ' :: '=' :: t) where
  bare := by
    rintro c hc
    cases hc
    rfl
  point := by
    intro heq
    cases heq

lemma Solid.dropSpaces {s : List Char} (h : Solid s) : dropSpaces s = s := by
  obtain ⟨c, t, rfl, hspace, htab, -⟩ := h
  exact dropSpaces_cons ⟨hspace, htab⟩ t

/-- The value of a pair begins behind the blank that follows the equals sign. -/
lemma pairWith_keyText {read : Read Datum} {k : Key} {d : Datum} {v : List Char}
    (hk : k.front.length < maxNesting - 1) (hv : Written read v d) (hrest : Ends rest) :
    pairWith read (keyText k ++ ' ' :: '=' :: ' ' :: (v ++ rest)) = some ((k, d), rest) := by
  have hkey : key (keyText k ++ ' ' :: '=' :: ' ' :: (v ++ rest))
      = some (k, '=' :: ' ' :: (v ++ rest)) :=
    key_keyText hk (endsKey_equals _)
  have hblank : dropSpaces (' ' :: (v ++ rest)) = v ++ rest := (hv.solid.append rest).dropSpaces
  rw [pairWith, hkey, Option.bind_eq_bind, Option.bind_some]
  show (read (dropSpaces (' ' :: (v ++ rest)))).bind (fun p => some ((k, p.1), p.2)) = _
  rw [hblank, hv.reads rest hrest, Option.bind_some]

lemma line_pair {k : Key} {d : Datum} {v : List Char} (hk : k.front.length < maxNesting - 1)
    (hv : Written (value (maxNesting - 1)) v d) :
    Line (keyText k ++ (" = ".toList ++ v)) (.pair k d) := by
  obtain ⟨c, t, hcons, hc⟩ := exists_keyText_eq_cons k
  have hne : ∀ {x : Char}, isBare x = false → x ≠ '"' → c ≠ x :=
    fun hx hquote => ne_of_isBare_or_quote hc hx hquote
  constructor
  · rw [hcons]
    exact solid_cons ⟨hne rfl (by decide), hne rfl (by decide), hne rfl (by decide),
      hne rfl (by decide), hne rfl (by decide), hne rfl (by decide)⟩ _
  · rw [hcons]
    intro heq
    exact hne (x := '\uFEFF') rfl (by decide) (Option.some.inj heq)
  · intro rest
    have hline : keyText k ++ (" = ".toList ++ v) ++ '\n' :: rest
        = keyText k ++ ' ' :: '=' :: ' ' :: (v ++ '\n' :: rest) := by simp
    rw [hline]
    unfold statement
    split
    · next heq =>
      rw [hcons] at heq
      exact absurd (List.cons.inj heq).1 (hne rfl (by decide))
    · rw [pairWith_keyText hk hv (ends_cons (by decide) rest), Option.map_some]

/-- A written statement takes a line. -/
lemma exists_line {st : Statement} {t : List Char} (ht : st.text = some t) (hfits : st.Fits) :
    ∃ line, t = line ++ ['\n'] ∧ Line line st := by
  cases st with
  | header k =>
    cases ht
    exact ⟨_, by simp, line_header hfits⟩
  | element k =>
    cases ht
    exact ⟨_, by simp, line_element hfits⟩
  | pair k d =>
    obtain ⟨v, hv, rfl⟩ := Option.map_eq_some_iff.mp ht
    obtain ⟨hk, hplain, hdepth⟩ := hfits
    exact ⟨_, by simp, line_pair hk (written_valueText d _ v hv hplain hdepth)⟩

/-! ## Texts -/

lemma statementsUpTo_line {line s : List Char} {st : Statement} (h : Line line st) (n : Nat)
    (hs : dropLines s.length s = line ++ '\n' :: rest) :
    statementsUpTo (n + 1) s = (statementsUpTo n rest).map (st :: ·) := by
  have hread := h.reads rest
  have hend : endLine ('\n' :: rest) = some rest := rfl
  obtain ⟨c, t, rfl, -, -, hcomment, -⟩ := h.solid
  rw [List.cons_append] at hs hread
  rw [statementsUpTo, hs]
  split
  · next heq => cases heq
  · next heq => exact absurd (List.cons.inj heq).1 hcomment
  · dsimp only
    rw [hread, Option.bind_eq_bind, Option.bind_some]
    dsimp only
    rw [hend, Option.bind_eq_bind, Option.bind_some, Option.map_eq_bind]
    rfl

/-- The statements after the first.  An empty line before a header is skipped. -/
lemma statementsUpTo_furtherText (sts : List Statement) {t : List Char} {n : Nat}
    (ht : furtherText sts = some t) (hfits : ∀ st ∈ sts, st.Fits) (hn : sts.length ≤ n) :
    statementsUpTo n t = some sts := by
  induction sts generalizing t n with
  | nil =>
    cases ht
    rw [statementsUpTo]
    rfl
  | cons st sts ih =>
    obtain ⟨hst, hsts⟩ := List.forall_mem_cons.mp hfits
    obtain ⟨n, rfl⟩ := Nat.exists_eq_succ_of_ne_zero (Nat.ne_zero_of_lt hn)
    obtain ⟨first, hfirst, ht⟩ := Option.bind_eq_some_iff.mp ht
    obtain ⟨others, hothers, ht⟩ := Option.bind_eq_some_iff.mp ht
    cases ht
    obtain ⟨line, rfl, hline⟩ := exists_line hfirst hst
    have hskip : ∀ lead, lead = [] ∨ lead = ['\n'] →
        dropLines (lead ++ (line ++ ['\n'] ++ others)).length (lead ++ (line ++ ['\n'] ++ others))
          = line ++ '\n' :: others := by
      have hcons : line ++ ['\n'] ++ others = line ++ '\n' :: others := by simp
      rw [hcons]
      rintro lead (rfl | rfl)
      · exact (hline.solid.append _).dropLines _
      · exact (hline.solid.append _).dropLines _
    have hlead : (if st.isHeader then ['\n'] else []) = []
        ∨ (if st.isHeader then ['\n'] else []) = ['\n'] := by
      cases st.isHeader
      · exact .inl rfl
      · exact .inr rfl
    rw [statementsUpTo_line hline n (hskip _ hlead), ih hothers hsts (Nat.le_of_succ_le_succ hn),
      Option.map_some]

lemma length_le_furtherText (sts : List Statement) {t : List Char}
    (ht : furtherText sts = some t) (hfits : ∀ st ∈ sts, st.Fits) : sts.length ≤ t.length := by
  induction sts generalizing t with
  | nil => exact Nat.zero_le _
  | cons st sts ih =>
    obtain ⟨hst, hsts⟩ := List.forall_mem_cons.mp hfits
    obtain ⟨first, hfirst, ht⟩ := Option.bind_eq_some_iff.mp ht
    obtain ⟨others, hothers, ht⟩ := Option.bind_eq_some_iff.mp ht
    cases ht
    obtain ⟨line, rfl, -⟩ := exists_line hfirst hst
    have hothers := ih hothers hsts
    simp only [List.length_append, List.length_cons, List.length_nil]
    omega

lemma isSome_furtherText (sts : List Statement) :
    (furtherText sts).isSome = sts.all fun st => st.text.isSome := by
  induction sts with
  | nil => rfl
  | cons st sts ih =>
    rw [furtherText, List.all_cons, ← ih]
    cases st.text with
    | none => rfl
    | some first => cases furtherText sts <;> rfl

/-- Statements have a written form as soon as each of them has one. -/
theorem isSome_write (sts : List Statement) :
    (write sts).isSome = sts.all fun st => st.text.isSome := by
  cases sts with
  | nil => rfl
  | cons st sts =>
    rw [write, List.all_cons, ← isSome_furtherText]
    cases st.text with
    | none => rfl
    | some first => cases furtherText sts <;> rfl

/-- **Written statements are read**, all of them and in their order. -/
theorem statements_write {sts : List Statement} {text : String} (h : write sts = some text)
    (hfits : ∀ st ∈ sts, st.Fits) : statements text.toList = some sts := by
  cases sts with
  | nil =>
    cases h
    rfl
  | cons st sts =>
    obtain ⟨hst, hsts⟩ := List.forall_mem_cons.mp hfits
    obtain ⟨first, hfirst, h⟩ := Option.bind_eq_some_iff.mp h
    obtain ⟨others, hothers, h⟩ := Option.bind_eq_some_iff.mp h
    cases h
    obtain ⟨line, rfl, hline⟩ := exists_line hfirst hst
    have hlength := length_le_furtherText sts hothers hsts
    have htext : (String.ofList (line ++ ['\n'] ++ others)).toList = line ++ '\n' :: others := by
      simp
    have hmark : dropMark (line ++ '\n' :: others) = line ++ '\n' :: others := by
      have hhead := hline.unmarked
      obtain ⟨c, t, rfl, -⟩ := hline.solid
      unfold dropMark
      split
      · next heq => exact absurd (congrArg some (List.cons.inj heq).1) hhead
      · rfl
    have hfuel : (line ++ '\n' :: others).length = line.length + others.length + 1 := by
      simp
      omega
    rw [htext, statements, hmark, hfuel,
      statementsUpTo_line hline _ ((hline.solid.append _).dropLines _),
      statementsUpTo_furtherText sts hothers hsts (by omega), Option.map_some]

end Deprecation.Toml
