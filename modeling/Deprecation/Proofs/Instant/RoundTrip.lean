/-
# Instants survive being written

The printer pads every number of a date and a time of day to its width and names the zone, so
the reader finds each number where it ends.  An instant that is written and read again is the
one as which it is shown.  This is the same instant, to the nanosecond, if it is on the clock,
in leap seconds and in the years that are written with a sign; and all that is read from texts
is on the clock.
-/
import Mathlib
import Deprecation.Instant.Printer
import Deprecation.Instant.Reader
import Deprecation.Proofs.Instant.Shown
import Deprecation.Proofs.Text.Trim

namespace Deprecation.Instant

open Text

/-! ## Digits -/

lemma isBlank_of_isAsciiDigit {c : Char} (h : isAsciiDigit c = true) : isBlank c = false := by
  have hascii : c.toNat < 0x80 := by
    simp only [isAsciiDigit, Bool.and_eq_true, decide_eq_true_eq, Char.le_def] at h
    exact lt_of_le_of_lt (UInt32.le_iff_toNat_le.mp h.2) (by decide)
  apply isBlank_of_isDigit
  rw [isDigit, if_pos hascii, h]

lemma isAsciiDigit_of_mem_padded {width n : Nat} {c : Char} (h : c ∈ padded width n) :
    isAsciiDigit c = true := by
  rcases List.mem_append.mp h with hzero | hdigit
  · rw [List.eq_of_mem_replicate hzero]
    decide
  · exact Nat.isDigit_of_mem_toDigits (by decide) (by decide) hdigit

/-- A number that fits has exactly the digits it is padded to. -/
lemma length_padded {width n : Nat} (hwidth : 0 < width) (hn : n < 10 ^ width) :
    (padded width n).length = width := by
  have hlength : (Nat.toDigits 10 n).length ≤ width :=
    (Nat.length_toDigits_le_iff (by decide) hwidth).mpr hn
  rw [padded, List.length_append, List.length_replicate]
  omega

lemma padded_ne_nil (width n : Nat) : padded width n ≠ [] := by
  simp [padded, Nat.toDigits_ne_nil]

/-- Leading zeros do not count. -/
lemma ofDigitChars_padded (width n : Nat) : Nat.ofDigitChars 10 (padded width n) 0 = n := by
  rw [padded, Nat.ofDigitChars_append, Nat.ofDigitChars_replicate_zero, Nat.mul_zero,
    Nat.ofDigitChars_toDigits (by decide) (by decide)]

/-- What starts with a number starts with no blank. -/
lemma trimStart_padded_append (width n : Nat) (rest : List Char) :
    trimStart (padded width n ++ rest) = padded width n ++ rest := by
  obtain ⟨c, s, hs⟩ := List.exists_cons_of_ne_nil (padded_ne_nil width n)
  have hc : isBlank c = false :=
    isBlank_of_isAsciiDigit (isAsciiDigit_of_mem_padded (hs ▸ List.mem_cons_self))
  rw [hs, List.cons_append, trimStart, List.dropWhile_cons_of_neg (by simp [hc])]

/-! ## Numbers -/

/-- No digit stands at the front of a list. -/
def EndsNumber (rest : List Char) : Prop :=
  ∀ c, rest.head? = some c → isAsciiDigit c = false

lemma takeWhile_padded_append (width n : Nat) {rest : List Char} (hrest : EndsNumber rest) :
    (padded width n ++ rest).takeWhile isAsciiDigit = padded width n := by
  rw [List.takeWhile_append_of_pos fun c hc => isAsciiDigit_of_mem_padded hc]
  cases rest with
  | nil => simp
  | cons c rest => simp [hrest c rfl]

/-- A number is read up to its last digit, as long as no more digits are wanted than it has or
no further digit follows. -/
lemma takeNumber_padded {most width n : Nat} {rest : List Char}
    (hmost : (padded width n).length ≤ most)
    (hrest : (padded width n).length = most ∨ EndsNumber rest) :
    takeNumber most (padded width n ++ rest) = some (n, rest) := by
  have hdigits : ((padded width n ++ rest).take most).takeWhile isAsciiDigit
      = padded width n := by
    rw [List.take_append, List.take_of_length_le hmost]
    apply takeWhile_padded_append
    rcases hrest with hlength | hrest
    · simp [hlength, EndsNumber]
    · intro c hc
      apply hrest c
      rw [List.head?_take] at hc
      split at hc
      · cases hc
      · exact hc
  have hempty : (padded width n).isEmpty = false := by simp [padded_ne_nil]
  simp only [takeNumber, hdigits, hempty, Bool.false_eq_true, if_false, List.drop_left,
    ofDigitChars_padded]

lemma takePart_padded {separator : Char} (hseparator : isBlank separator = false) {n : Nat}
    (hn : n < 100) (rest : List Char) :
    takePart separator (separator :: (padded 2 n ++ rest)) = some (n, rest) := by
  have htrim : trimStart (separator :: (padded 2 n ++ rest))
      = separator :: (padded 2 n ++ rest) := by
    rw [trimStart, List.dropWhile_cons_of_neg (by simp [hseparator])]
  have hlength : (padded 2 n).length = 2 := length_padded (by decide) hn
  rw [takePart, htrim]
  simp only [if_true, trimStart_padded_append]
  exact takeNumber_padded hlength.le (Or.inl hlength)

/-! ## The year and the fraction -/

/-- A year with a sign, which may have any number of digits. -/
lemma takeLongNumber_padded (n : Nat) {rest : List Char} (hrest : EndsNumber rest) :
    takeLongNumber (padded 4 n ++ rest) = some (n, rest) :=
  takeNumber_padded (by simp) (Or.inr hrest)

lemma takeYear_yearText (year : Int) {rest : List Char} (hrest : EndsNumber rest) :
    takeYear (yearText year ++ rest) = some (year, rest) := by
  have hminus : isBlank '-' = false := by decide
  have hplus : isBlank '+' = false := by decide
  rw [yearText]
  split
  · next hyear =>
    have hlength : (padded 4 year.toNat).length = 4 := length_padded (by decide) (by omega)
    -- the first character is a digit, so it is no sign
    obtain ⟨c, s, hs⟩ := List.exists_cons_of_ne_nil (padded_ne_nil 4 year.toNat)
    have hc : isAsciiDigit c = true := isAsciiDigit_of_mem_padded (hs ▸ List.mem_cons_self)
    have hnumber : takeNumber 4 (padded 4 year.toNat ++ rest) = some (year.toNat, rest) :=
      takeNumber_padded hlength.le (Or.inl hlength)
    rw [takeYear, trimStart_padded_append]
    split
    · next heq =>
      rw [hs, List.cons_append, List.cons.injEq] at heq
      rw [heq.1] at hc
      exact absurd hc (by decide)
    · next heq =>
      rw [hs, List.cons_append, List.cons.injEq] at heq
      rw [heq.1] at hc
      exact absurd hc (by decide)
    · rw [hnumber, Option.map_some, Int.toNat_of_nonneg hyear.1]
  · split
    · next hyear =>
      rw [takeYear, trimStart, List.cons_append, List.dropWhile_cons_of_neg (by simp [hminus])]
      simp only [takeLongNumber_padded _ hrest, Option.map_some]
      congr 2
      omega
    · next hyear =>
      rw [takeYear, trimStart, List.cons_append, List.dropWhile_cons_of_neg (by simp [hplus])]
      simp only [takeLongNumber_padded _ hrest, Option.map_some]
      congr 2
      omega

/-- A fraction of so many digits, at most nine. -/
lemma takeFraction_padded {width n : Nat} (hwidth : 0 < width) (hmost : width ≤ 9)
    (hn : n < 10 ^ width) {rest : List Char} (hrest : EndsNumber rest) :
    takeFraction ('.' :: (padded width n ++ rest)) = some (n * 10 ^ (9 - width), rest) := by
  have hlength := length_padded hwidth hn
  have hempty : (padded width n).isEmpty = false := by simp [padded_ne_nil]
  have hkept : (padded width n).take 9 = padded width n :=
    List.take_of_length_le (hlength.trans_le hmost)
  have hdropped : (padded width n ++ rest).dropWhile isAsciiDigit = rest := by
    have hsplit := List.takeWhile_append_dropWhile (p := isAsciiDigit)
      (l := padded width n ++ rest)
    rw [takeWhile_padded_append width n hrest] at hsplit
    exact List.append_cancel_left hsplit
  simp only [takeFraction, takeWhile_padded_append width n hrest, hempty,
    Bool.false_eq_true, if_false, hkept, ofDigitChars_padded, hlength, hdropped]
  rfl

lemma takeFraction_fractionText {nano : Nat} (hnano : nano < 1000000000) {rest : List Char}
    (hrest : EndsNumber rest) (hpoint : rest.head? ≠ some '.') :
    takeFraction (fractionText nano ++ rest) = some (nano, rest) := by
  rw [fractionText]
  split
  · next hzero =>
    rw [List.nil_append, takeFraction, hzero]
    rintro s rfl
    exact hpoint rfl
  · split
    · rw [List.cons_append, takeFraction_padded (by decide) (by decide) (by omega) hrest]
      congr 2
      omega
    · split
      · rw [List.cons_append, takeFraction_padded (by decide) (by decide) (by omega) hrest]
        congr 2
        omega
      · rw [List.cons_append, takeFraction_padded (by decide) (by decide) (by omega) hrest]
        congr 2
        omega

/-! ## The whole text -/

lemma ofLocal_zero {f : Fields} (h : f.isShown = true) : ofLocal f 0 = ofShown f := by
  obtain ⟨year, month, day, hour, minute, second, nano⟩ := f
  have hhour : hour < 24 ∧ minute < 60 := by
    simp only [Fields.isShown, Fields.isMinute, Bool.and_eq_true, decide_eq_true_eq] at h
    exact ⟨h.1.1.1.2, h.1.1.2⟩
  have htotal : (hour : Int) * 60 + minute - 0 = ((hour * 60 + minute : Nat) : Int) := by
    push_cast
    ring
  have hbelow : ¬ ((hour * 60 + minute : Nat) : Int) < 0 := by omega
  have habove : ¬ (1440 : Int) ≤ ((hour * 60 + minute : Nat) : Int) := by omega
  have hminutes : (((hour * 60 + minute : Nat) : Int) % 1440).toNat = hour * 60 + minute := by
    omega
  have hdiv : (hour * 60 + minute) / 60 = hour := by omega
  have hmod : (hour * 60 + minute) % 60 = minute := by omega
  simp only [ofLocal, htotal, hbelow, habove, if_false, hminutes, hdiv, hmod]

/-- A reader goes on with what one of its steps has read. -/
lemma bind_of_eq_some {α β : Type} {o : Option α} {a : α} (h : o = some a) (f : α → Option β) :
    o >>= f = f a := by
  rw [h]
  rfl

/-- Fields that are shown are read from their text. -/
theorem read_textIn {f : Fields} (h : f.isShown = true) : read (textIn ['Z'] f) = ofShown f := by
  have hshown := h
  simp only [Fields.isShown, Fields.isMinute, Calendar.isDate, Bool.and_eq_true,
    decide_eq_true_eq] at hshown
  obtain ⟨⟨⟨⟨⟨⟨⟨-, hmonth⟩, -⟩, hday⟩, hhour⟩, hminute⟩, hsecond⟩, hnano⟩ := hshown
  have hday' : f.day < 100 := by
    have hdays : Calendar.daysIn f.year f.month ≤ 31 := by
      unfold Calendar.daysIn
      split_ifs <;> omega
    omega
  have hhour' : (padded 2 f.hour).length = 2 := length_padded (by decide) (by omega)
  have hdash : ∀ s, EndsNumber ('-' :: s) := by
    rintro s c ⟨⟩
    decide
  have hzone : EndsNumber ['Z'] := by
    rintro c ⟨⟩
    decide
  have hspelled : textIn ['Z'] f = yearText f.year ++ ('-' :: (padded 2 f.month ++
      ('-' :: (padded 2 f.day ++ ('T' :: (padded 2 f.hour ++ (':' :: (padded 2 f.minute ++
        (':' :: (padded 2 f.second ++ (fractionText f.nano ++ ['Z']))))))))))) := by
    simp [textIn]
  rw [hspelled, read]
  -- each part is read up to where the next one starts
  refine (bind_of_eq_some (takeYear_yearText _ (hdash _)) _).trans ?_
  refine (bind_of_eq_some (takePart_padded (by decide) (by omega) _) _).trans ?_
  refine (bind_of_eq_some (takePart_padded (by decide) hday' _) _).trans ?_
  refine (bind_of_eq_some (congrArg some (trimStart_padded_append 2 f.hour _)) _).trans ?_
  refine (bind_of_eq_some (takeNumber_padded hhour'.le (Or.inl hhour')) _).trans ?_
  refine (bind_of_eq_some (takePart_padded (by decide) (by omega) _) _).trans ?_
  refine (bind_of_eq_some (takePart_padded (by decide) (by omega) _) _).trans ?_
  refine (bind_of_eq_some (takeFraction_fractionText hnano hzone (by decide)) _).trans ?_
  refine (bind_of_eq_some (show takeZone (trimStart ['Z']) = some (0, []) from rfl) _).trans ?_
  show (if _ then _ else _) = _
  rw [if_pos ⟨h, by decide, rfl⟩]
  exact ofLocal_zero h

/-- **Instants survive being written.**  An instant is read from its text as it is shown. -/
theorem ofText_toText (t : Instant) : ofText t.toText = some t.asShown := by
  rw [ofText, toText, String.toList_ofList, read_textIn (Fields.isShown_shown t.valid),
    ofShown_shown]

lemma toText_asShown (t : Instant) : t.asShown.toText = t.toText := by
  rw [toText, shown_asShown, toText]

/-! ## What is read -/

lemma onClock_of_ofLocal {f : Fields} {ahead : Int} {t : Instant} (h : ofLocal f ahead = some t) :
    t.OnClock := by
  rw [ofLocal] at h
  exact onClock_of_ofShown h

/-- What is read is on the clock. -/
theorem onClock_of_ofText {s : String} {t : Instant} (h : ofText s = some t) : t.OnClock := by
  rw [ofText, read] at h
  simp only [Option.bind_eq_bind, Option.bind_eq_some_iff] at h
  obtain ⟨year, -, month, -, day, -, h⟩ := h
  split at h
  next c rest _ =>
    split at h
    · simp only [Option.bind_eq_some_iff] at h
      obtain ⟨-, -, hour, -, minute, -, second, -, nano, -, ahead, -, h⟩ := h
      split at h
      · exact onClock_of_ofLocal h
      · cases h
    · cases h
  next => cases h

end Deprecation.Instant
