/-
# Valid catalogues

A catalogue is looked through before it is used: entry by entry and rule by rule, with the ids
that have been seen at hand.  This file says what that comes to.  A catalogue is valid just when
its entries have different ids, its rules have different ids, and every rule that refers to an
entry refers to one of the catalogue's own.  Patterns are not looked at.  What is read from a
text is valid in this way, and its instants are on the clock.
-/
import Mathlib
import Deprecation.Catalogue.Builtin
import Deprecation.Proofs.Rule.Codec
import Deprecation.Proofs.Store.Change

namespace Deprecation
namespace Catalogue

variable {c : Catalogue}

/-! ## Ids that have been seen -/

/-- The ids of a list are new and different when the first one is new and those behind it are
new and different once it has been seen. -/
lemma unseen_cons_iff {α : Type} {id : α → String} {seen : List String} {a : α} {rest : List α} :
    ((∀ b ∈ a :: rest, id b ∉ seen) ∧ ((a :: rest).map id).Nodup) ↔
      id a ∉ seen ∧ (∀ b ∈ rest, id b ∉ id a :: seen) ∧ (rest.map id).Nodup := by
  rw [List.forall_mem_cons, List.map_cons, List.nodup_cons]
  simp only [List.mem_cons, not_or, List.mem_map, not_exists, not_and, forall_and]
  constructor
  · rintro ⟨⟨ha, hseen⟩, hne, hnodup⟩
    exact ⟨ha, ⟨hne, hseen⟩, hnodup⟩
  · rintro ⟨ha, ⟨hne, hseen⟩, hnodup⟩
    exact ⟨⟨ha, hseen⟩, hne, hnodup⟩

lemma firstRepeated_eq_none_iff {seen ids : List String} :
    firstRepeated seen ids = none ↔ (∀ id ∈ ids, id ∉ seen) ∧ ids.Nodup := by
  induction ids generalizing seen with
  | nil => simp [firstRepeated]
  | cons id rest ih =>
    have hcons := @unseen_cons_iff String (fun i => i) seen id rest
    rw [List.map_id', List.map_id'] at hcons
    rw [firstRepeated, hcons]
    by_cases hid : id ∈ seen
    · simp [hid]
    · rw [if_neg hid, ih]
      simp [hid]

/-- Rules are without a fault when their ids are new and different, and nothing is objected to
any of them. -/
lemma ruleFault_eq_none_iff {entries : List Entry} {seen : List String} {rules : List StaticRule} :
    ruleFault entries seen rules = none ↔
      ((∀ r ∈ rules, r.id ∉ seen) ∧ (rules.map StaticRule.id).Nodup) ∧
        ∀ r ∈ rules, Store.danglingAmong entries r = none := by
  induction rules generalizing seen with
  | nil => simp [ruleFault]
  | cons r rest ih =>
    have hr : (r.correction.filter fun c => !entries.any (·.id == c)) = none ↔
        Store.danglingAmong entries r = none := by
      rw [Store.danglingAmong]
      cases r.correction with
      | none => simp
      | some c => simp [Option.filter]
    rw [ruleFault, unseen_cons_iff, List.forall_mem_cons, ← hr]
    by_cases hid : r.id ∈ seen
    · simp [hid]
    rw [if_neg hid]
    cases hcorrection : r.correction.filter fun c => !entries.any (·.id == c) with
    | some c => simp
    | none => simp [ih, hid]

/-! ## Validation -/

/-- What a catalogue that loads is good for: its rules have different ids and refer to entries
that are there. -/
structure Sound (c : Catalogue) : Prop where
  nodup : (c.rules.map StaticRule.id).Nodup
  resolves : ∀ r ∈ c.rules, Store.danglingAmong c.entries r = none

/-- A catalogue is valid when it is sound and its entries have different ids. -/
theorem validate_eq_ok_iff :
    c.validate = .ok () ↔ (c.entries.map Entry.id).Nodup ∧ c.Sound := by
  have hentries := @firstRepeated_eq_none_iff [] (c.entries.map Entry.id)
  have hrules := @ruleFault_eq_none_iff c.entries [] c.rules
  simp only [List.not_mem_nil, not_false_eq_true, implies_true, true_and] at hentries
  simp only [List.not_mem_nil, not_false_eq_true, implies_true, true_and] at hrules
  have hsound : c.Sound ↔ (c.rules.map StaticRule.id).Nodup ∧
      ∀ r ∈ c.rules, Store.danglingAmong c.entries r = none :=
    ⟨fun h => ⟨h.nodup, h.resolves⟩, fun h => ⟨h.1, h.2⟩⟩
  rw [← hentries, hsound, ← hrules, validate]
  cases firstRepeated [] (c.entries.map Entry.id) with
  | some id => simp
  | none => cases ruleFault c.entries [] c.rules <;> simp

lemma sound_of_validate (h : c.validate = .ok ()) : c.Sound :=
  (validate_eq_ok_iff.mp h).2

/-! ## Catalogues that are read -/

/-- A catalogue that is read from a text is valid. -/
lemma exists_of_ofToml {text : String} (h : ofToml text = .ok c) :
    ∃ d, ofDatum .toml d = some c ∧ c.validate = .ok () := by
  rw [ofToml] at h
  split at h
  · cases h
  next c' hread =>
    obtain ⟨d, -, hd⟩ := Option.bind_eq_some_iff.mp hread
    cases hvalid : c'.validate with
    | error e =>
      rw [hvalid] at h
      cases h
    | ok u =>
      rw [hvalid] at h
      cases h
      exact ⟨d, hd, hvalid⟩

lemma sound_of_ofToml {text : String} (h : ofToml text = .ok c) : c.Sound := by
  obtain ⟨d, -, hvalid⟩ := exists_of_ofToml h
  exact sound_of_validate hvalid

/-- Its entries were verified at instants on the clock, since a text names no other. -/
lemma onClock_of_ofToml {text : String} (h : ofToml text = .ok c) :
    ∀ e ∈ c.entries, e.verifiedAt.OnClock := by
  obtain ⟨d, hd, -⟩ := exists_of_ofToml h
  rw [ofDatum] at hd
  simp only [Option.bind_eq_bind, Option.bind_eq_some_iff] at hd
  obtain ⟨g, -, entries, hentries, rules, -, hd⟩ := hd
  cases hd
  intro e he
  obtain ⟨d', hd'⟩ := Datum.exists_of_defaultList hentries e he
  exact Entry.onClock_of_ofDatum hd'

lemma sound_builtin : builtin.Sound := sound_of_validate (by decide)

lemma onClock_builtin : ∀ e ∈ builtin.entries, e.verifiedAt.OnClock := by decide

end Catalogue
end Deprecation
