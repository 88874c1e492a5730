/-
# Rules and entries survive being encoded

The encodings of the two kinds of rules and of entries bring back all fields, the optional ones
whether they are there or left out.  An instant comes back as it is shown; so a mined rule and an
entry survive if their instant is on the clock, and what is decoded always has such an instant.
-/
import Mathlib
import Deprecation.Knowledge
import Deprecation.Proofs.Datum.Decode
import Deprecation.Proofs.Instant.RoundTrip

namespace Deprecation

open Datum

/-! ## Scalars -/

namespace Instant

variable {t : Instant}

lemma survives (h : t.OnClock) : Survives toDatum ofDatum t where
  plain := rfl
  decoded := by
    rw [toDatum, ofDatum, Faithful.str.decoded, Option.bind_eq_bind, Option.bind_some,
      ofText_toText, asShown_eq_self_iff.mpr h]

lemma toDatum_asShown (t : Instant) : t.asShown.toDatum = t.toDatum := by
  rw [toDatum, toText_asShown, toDatum]

lemma onClock_of_ofDatum {d : Datum} (h : ofDatum d = some t) : t.OnClock := by
  obtain ⟨s, -, hs⟩ := Option.bind_eq_some_iff.mp h
  exact onClock_of_ofText hs

end Instant

lemma Category.faithful (format : Format) :
    Faithful Category.toDatum (Category.ofDatum format) :=
  Faithful.oneOf format fun c => by cases c <;> decide

lemma Severity.faithful (format : Format) :
    Faithful Severity.toDatum (Severity.ofDatum format) :=
  Faithful.oneOf format fun s => by cases s <;> decide

lemma Status.faithful (format : Format) : Faithful Status.toDatum (Status.ofDatum format) :=
  Faithful.oneOf format fun s => by cases s <;> decide

lemma Confidence.faithful (format : Format) :
    Faithful Confidence.toDatum (Confidence.ofDatum format) :=
  Faithful.oneOf format fun c => by cases c <;> decide

lemma str_ne_null (s : String) : str s ≠ .null := by
  simp [str]

/-! ## Structures -/

namespace StaticRule

lemma given_toDatum (r : StaticRule) (format : Format) :
    r.toDatum.given ["id", "pattern", "description", "correction_id", "severity"] format
      = some ⟨false, [some (str r.id), some (str r.pattern), some (str r.description),
          r.correction.map str, some r.severity.toDatum]⟩ := by
  rw [toDatum, given_record]
  · cases r.correction <;> rfl
  · cases r.correction <;> exact of_decide_eq_true rfl

theorem faithful (format : Format) : Faithful toDatum (ofDatum format) where
  plain r := by
    rw [toDatum, isPlain_record]
    cases r.correction <;> rfl
  decoded r := by
    rw [ofDatum, given_toDatum, Option.bind_eq_bind, Option.bind_some,
      required_bind (Faithful.str.decoded r.id) rfl,
      required_bind (Faithful.str.decoded r.pattern) rfl,
      required_bind (Faithful.str.decoded r.description) rfl,
      leftOut_bind (o := r.correction) Faithful.str str_ne_null rfl,
      required_bind ((Severity.faithful format).decoded r.severity) rfl]
    rfl

end StaticRule

namespace MinedRule

lemma given_toDatum (r : MinedRule) :
    r.toDatum.given
        ["id", "deprecated_api", "category", "pattern", "description", "severity",
          "fix_suggestion", "correction_id", "source_release", "review_status", "generated_at"]
      = some ⟨false, [some (str r.id), some (str r.token), some r.category.toDatum,
          some (str r.pattern), some (str r.description), some r.severity.toDatum,
          r.fix.map str, r.correction.map str, some (str r.release), some r.status.toDatum,
          some r.madeAt.toDatum]⟩ := by
  rw [toDatum, given_record]
  · cases r.fix <;> cases r.correction <;> rfl
  · cases r.fix <;> cases r.correction <;> exact of_decide_eq_true rfl

/-- A rule survives if its instant is on the clock. -/
theorem survives {r : MinedRule} (h : r.madeAt.OnClock) : Survives toDatum ofDatum r where
  plain := by
    rw [toDatum, isPlain_record]
    cases r.fix <;> cases r.correction <;> rfl
  decoded := by
    rw [ofDatum, given_toDatum, Option.bind_eq_bind, Option.bind_some,
      required_bind (Faithful.str.decoded r.id) rfl,
      required_bind (Faithful.str.decoded r.token) rfl,
      required_bind ((Category.faithful .json).decoded r.category) rfl,
      required_bind (Faithful.str.decoded r.pattern) rfl,
      required_bind (Faithful.str.decoded r.description) rfl,
      required_bind ((Severity.faithful .json).decoded r.severity) rfl,
      leftOut_bind (o := r.fix) Faithful.str str_ne_null rfl,
      leftOut_bind (o := r.correction) Faithful.str str_ne_null rfl,
      required_bind (Faithful.str.decoded r.release) rfl,
      required_bind ((Status.faithful .json).decoded r.status) rfl,
      required_bind (Instant.survives h).decoded rfl]
    rfl

/-- The rule with its instant as it is shown. -/
def asShown (r : MinedRule) : MinedRule := { r with madeAt := r.madeAt.asShown }

@[simp] lemma id_asShown (r : MinedRule) : r.asShown.id = r.id := rfl

@[simp] lemma view_asShown (r : MinedRule) : r.asShown.view = r.view := rfl

lemma asShown_eq_self_iff {r : MinedRule} : r.asShown = r ↔ r.madeAt.OnClock := by
  rw [← Instant.asShown_eq_self_iff]
  constructor
  · exact fun h => congrArg madeAt h
  · intro h
    rw [asShown, h]

lemma toDatum_asShown (r : MinedRule) : r.asShown.toDatum = r.toDatum := by
  show Datum.record _ = Datum.record _
  rw [asShown, Instant.toDatum_asShown]

lemma onClock_of_ofDatum {d : Datum} {r : MinedRule} (h : ofDatum d = some r) :
    r.madeAt.OnClock := by
  rw [ofDatum] at h
  simp only [Option.bind_eq_bind, Option.bind_eq_some_iff] at h
  obtain ⟨g, -, id, -, token, -, category, -, pattern, -, description, -, severity, -, fix, -,
    correction, -, release, -, status, -, madeAt, hmadeAt, h⟩ := h
  cases h
  obtain ⟨d', hd'⟩ := exists_of_required hmadeAt
  exact Instant.onClock_of_ofDatum hd'

end MinedRule

namespace Entry

lemma given_toDatum (e : Entry) (format : Format) :
    e.toDatum.given
        ["id", "title", "content", "version_range", "confidence", "last_verified_at"] format
      = some ⟨false, [some (str e.id), some (str e.title), some (str e.content),
          some (str e.versions), some e.confidence.toDatum, some e.verifiedAt.toDatum]⟩ := by
  rw [toDatum, given_record]
  · rfl
  · exact of_decide_eq_true rfl

/-- An entry survives if its instant is on the clock. -/
theorem survives {e : Entry} (h : e.verifiedAt.OnClock) (format : Format) :
    Survives toDatum (ofDatum format) e where
  plain := by
    rw [toDatum, isPlain_record]
    rfl
  decoded := by
    rw [ofDatum, given_toDatum, Option.bind_eq_bind, Option.bind_some,
      required_bind (Faithful.str.decoded e.id) rfl,
      required_bind (Faithful.str.decoded e.title) rfl,
      required_bind (Faithful.str.decoded e.content) rfl,
      required_bind (Faithful.str.decoded e.versions) rfl,
      withDefault_bind ((Confidence.faithful format).decoded e.confidence) .medium rfl,
      required_bind (Instant.survives h).decoded rfl]
    rfl

/-- The entry with its instant as it is shown. -/
def asShown (e : Entry) : Entry := { e with verifiedAt := e.verifiedAt.asShown }

@[simp] lemma id_asShown (e : Entry) : e.asShown.id = e.id := rfl

lemma asShown_eq_self_iff {e : Entry} : e.asShown = e ↔ e.verifiedAt.OnClock := by
  rw [← Instant.asShown_eq_self_iff]
  constructor
  · exact fun h => congrArg verifiedAt h
  · intro h
    rw [asShown, h]

lemma toDatum_asShown (e : Entry) : e.asShown.toDatum = e.toDatum := by
  show Datum.record _ = Datum.record _
  rw [asShown, Instant.toDatum_asShown]

lemma onClock_of_ofDatum {format : Format} {d : Datum} {e : Entry}
    (h : ofDatum format d = some e) : e.verifiedAt.OnClock := by
  rw [ofDatum] at h
  simp only [Option.bind_eq_bind, Option.bind_eq_some_iff] at h
  obtain ⟨g, -, id, -, title, -, content, -, versions, -, confidence, -, verifiedAt, hverifiedAt,
    h⟩ := h
  cases h
  obtain ⟨d', hd'⟩ := exists_of_required hverifiedAt
  exact Instant.onClock_of_ofDatum hd'

end Entry

end Deprecation
