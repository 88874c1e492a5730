/-
# Instants as they are shown

An instant that a clock can show is known from the fields in which it is shown.  One that has
gone on past the end of a second in the middle of a minute is not: it is shown as part of the
next second, and the instant that is shown there is another one.  So every instant has an
instant as which it is shown, and the instants that a clock can show are those that are shown
as themselves.
-/
import Mathlib
import Deprecation.Clock

namespace Deprecation

namespace Instant

/-! ## Fields -/

namespace Fields

variable {f : Fields}

/-- A clock can show the time: only at the end of a minute has it gone on past the end of its
second. -/
def OnClock (f : Fields) : Prop := f.nano < 1000000000 ∨ f.second = 59

instance : DecidablePred OnClock := fun f =>
  inferInstanceAs (Decidable (f.nano < 1000000000 ∨ f.second = 59))

lemma isShown_shown (h : f.isValid = true) : f.shown.isShown = true := by
  simp only [isValid, Bool.and_eq_true, decide_eq_true_eq] at h
  obtain ⟨⟨hminute, hsecond⟩, hnano⟩ := h
  have hsecond' : f.second + f.nano / 1000000000 ≤ 60 := by omega
  have hnano' : f.nano % 1000000000 < 1000000000 := Nat.mod_lt _ (by decide)
  simp only [isShown, Bool.and_eq_true, decide_eq_true_eq]
  exact ⟨⟨hminute, hsecond'⟩, hnano'⟩

lemma onClock_counted (h : f.isShown = true) : f.counted.OnClock := by
  simp only [isShown, Bool.and_eq_true, decide_eq_true_eq] at h
  rw [counted]
  split
  · exact Or.inr rfl
  · exact Or.inl h.2

/-- Nothing is lost when fields that are shown are counted. -/
lemma shown_counted (h : f.isShown = true) : f.counted.shown = f := by
  simp only [isShown, Bool.and_eq_true, decide_eq_true_eq] at h
  have hnano : f.nano < 1000000000 := h.2
  rw [counted]
  split
  next hleap =>
    have hsecond' : 59 + (f.nano + 1000000000) / 1000000000 = f.second := by omega
    have hnano' : (f.nano + 1000000000) % 1000000000 = f.nano := by omega
    simp only [shown, hsecond', hnano']
  next => simp only [shown, Nat.div_eq_of_lt hnano, Nat.mod_eq_of_lt hnano, Nat.add_zero]

/-- Nothing is lost when a time on the clock is shown. -/
lemma counted_shown (h : f.isValid = true) (hclock : f.OnClock) : f.shown.counted = f := by
  simp only [isValid, Bool.and_eq_true, decide_eq_true_eq] at h
  obtain ⟨⟨-, hsecond⟩, hnano⟩ := h
  rcases Nat.lt_or_ge f.nano 1000000000 with hlt | hge
  · have hshown : f.shown = f := by
      simp only [shown, Nat.div_eq_of_lt hlt, Nat.mod_eq_of_lt hlt, Nat.add_zero]
    rw [hshown, counted, if_neg (Nat.ne_of_lt hsecond)]
  · -- past the end of its second a time on the clock is in second 59
    have h59 : f.second = 59 := hclock.resolve_left (Nat.not_lt.mpr hge)
    have hleap : f.second + f.nano / 1000000000 = 60 := by omega
    have hrest : f.nano % 1000000000 + 1000000000 = f.nano := by omega
    rw [counted, shown, if_pos hleap]
    simp only [hrest, ← h59]

end Fields

/-! ## Instants -/

variable {t : Instant} {f : Fields}

/-- The instant that is shown in the same fields. -/
def asShown (t : Instant) : Instant :=
  ⟨t.shown.counted, Fields.isValid_counted (Fields.isShown_shown t.valid)⟩

lemma ofShown_shown (t : Instant) : ofShown t.shown = some t.asShown := by
  rw [ofShown, dif_pos (Fields.isShown_shown t.valid), asShown]

lemma onClock_of_ofShown (h : ofShown f = some t) : t.OnClock := by
  rw [ofShown] at h
  split at h
  next hf =>
    cases h
    exact Fields.onClock_counted hf
  next => cases h

lemma shown_asShown (t : Instant) : t.asShown.shown = t.shown :=
  Fields.shown_counted (Fields.isShown_shown t.valid)

lemma onClock_asShown (t : Instant) : t.asShown.OnClock :=
  Fields.onClock_counted (Fields.isShown_shown t.valid)

/-- The instants on the clock are those that are shown as themselves. -/
theorem asShown_eq_self_iff : t.asShown = t ↔ t.OnClock := by
  refine ⟨fun h => h ▸ t.onClock_asShown, fun h => ?_⟩
  obtain ⟨f, hvalid⟩ := t
  simp only [asShown, Fields.counted_shown hvalid h]

/-- Half a second past the end of the first second of a minute is shown as the middle of the next
second. -/
example : (⟨⟨2024, 2, 1, 8, 5, 0, 1500000000⟩, by decide⟩ : Instant).asShown
    = ⟨⟨2024, 2, 1, 8, 5, 1, 500000000⟩, by decide⟩ := by
  decide

end Instant

/-- A clock shows what is on it. -/
lemma Clock.onClock_now (c : Clock) : c.now.OnClock := by
  rw [now]
  cases h : Instant.ofShown (c.reading c.taken) with
  | none => exact Or.inr rfl
  | some t => exact Instant.onClock_of_ofShown h

end Deprecation
