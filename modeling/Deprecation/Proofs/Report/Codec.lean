/-
# Rules and reports survive being written

What checks give out is written as JSON: the rules that took part, the findings of one text, and
reports on many files.  A reader of such a text gets back what was written, in either style and
whatever the texts of its fields are.  Optional fields that are absent are written as null.  The
origin of a rule and the correction of a finding have a tag, by which the reader knows which fields
to expect; everything in them is a text, so the tag can be taken off wherever they stand.

Only numbers have a bound: a line and a count are read with 64 bits, and the parts of a version
with 32.  A finding or a report with greater numbers is written, but it is not read.
-/
import Mathlib
import Deprecation.Proofs.Rule.Codec
import Deprecation.Report

namespace Deprecation

open Datum

variable {around : Nat}

/-! ## Structures with a tag -/

lemma faithful_optionalText : Faithful (Datum.option str) (asOption asText) :=
  Faithful.str.option str_ne_null

/-- The fields of a structure with one text, after its tag has been taken off. -/
lemma given_textField (name value : String) :
    (record (textFields [(name, value)])).given [name] = some ⟨false, [some (str value)]⟩ := by
  rw [given_record [name] .json (by simp [textFields])]
  simp [textFields]

theorem Origin.faithful (h : around < maxDepth) : Faithful toDatum (ofDatum around) where
  plain o := by cases o <;> rfl
  decoded o := by
    cases o with
    | static =>
      have htag : static.toDatum.tagged "kind" around = some ("static", record (textFields [])) :=
        tagged_textFields "kind" "static" [] (by simp) h
      rw [ofDatum, htag]
      rfl
    | mined release =>
      have htag : (mined release).toDatum.tagged "kind" around
          = some ("dynamic", record (textFields [("source_release", release)])) :=
        tagged_textFields "kind" "dynamic" [("source_release", release)] (by simp) h
      rw [ofDatum, htag, Option.bind_eq_bind, Option.bind_some]
      dsimp only
      rw [if_neg (by decide), if_pos rfl, given_textField, Option.bind_eq_bind, Option.bind_some,
        required_bind (Faithful.str.decoded release) rfl]
      rfl

theorem Correction.faithful (h : around < maxDepth) : Faithful toDatum (ofDatum around) where
  plain c := by cases c <;> rfl
  decoded c := by
    cases c with
    | unresolved =>
      have htag : unresolved.toDatum.tagged "status" around
          = some ("unresolved", record (textFields [])) :=
        tagged_textFields "status" "unresolved" [] (by simp) h
      rw [ofDatum, htag]
      rfl
    | resolved title =>
      have htag : (resolved title).toDatum.tagged "status" around
          = some ("resolved", record (textFields [("title", title)])) :=
        tagged_textFields "status" "resolved" [("title", title)] (by simp) h
      rw [ofDatum, htag, Option.bind_eq_bind, Option.bind_some]
      dsimp only
      rw [if_pos rfl, given_textField, Option.bind_eq_bind, Option.bind_some,
        required_bind (Faithful.str.decoded title) rfl]
      rfl

lemma Correction.toDatum_ne_null (c : Correction) : c.toDatum ≠ .null := by
  cases c <;> simp [toDatum, record]

/-! ## Rules -/

namespace Rule

lemma given_toDatum (r : Rule) :
    r.toDatum.given
        ["id", "pattern", "description", "severity", "fix_suggestion", "correction_id", "origin"]
      = some ⟨false, [some (str r.id), some (str r.pattern), some (str r.description),
          some r.severity.toDatum, some (.option str r.fix), some (.option str r.correction),
          some r.origin.toDatum]⟩ := by
  rw [toDatum, given_record]
  · rfl
  · exact of_decide_eq_true rfl

theorem faithful : Faithful toDatum ofDatum where
  plain r := by
    rw [toDatum, isPlain_record]
    simp only [List.all_cons, List.all_nil, isPlain_str, (Severity.faithful .json).plain,
      faithful_optionalText.plain, (Origin.faithful (by decide : 1 < maxDepth)).plain,
      Bool.and_self]
  decoded r := by
    rw [ofDatum, given_toDatum, Option.bind_eq_bind, Option.bind_some,
      required_bind (Faithful.str.decoded r.id) rfl,
      required_bind (Faithful.str.decoded r.pattern) rfl,
      required_bind (Faithful.str.decoded r.description) rfl,
      required_bind ((Severity.faithful .json).decoded r.severity) rfl,
      optional_bind (faithful_optionalText.decoded r.fix) rfl,
      optional_bind (faithful_optionalText.decoded r.correction) rfl,
      required_bind ((Origin.faithful (by decide : 1 < maxDepth)).decoded r.origin) rfl]
    rfl

end Rule

/-! ## Findings -/

namespace Finding

/-- The line of a finding fits in 64 bits. -/
def Fits (f : Finding) : Prop := f.line < 2 ^ 64

lemma given_toDatum (f : Finding) :
    f.toDatum.given
        ["rule_id", "severity", "description", "fix_suggestion", "correction_id", "correction",
          "matched_text", "line_number"]
      = some ⟨false, [some (str f.ruleId), some f.severity.toDatum, some (str f.description),
          some (.option str f.fix), some (.option str f.correctionId),
          some (.option Correction.toDatum f.correction), some (str f.matched),
          some (.nat f.line)]⟩ := by
  rw [toDatum, given_record]
  · rfl
  · exact of_decide_eq_true rfl

/-- A finding survives wherever its correction is not too deep. -/
theorem survives {f : Finding} (hf : f.Fits) (h : around + 1 < maxDepth) :
    Survives toDatum (ofDatum around) f := by
  have hline : Survives Datum.nat (asNatBelow (Nat.pow 2 64)) f.line := .nat hf le_rfl
  have hcorrection := (Correction.faithful h).option Correction.toDatum_ne_null
  constructor
  · rw [toDatum, isPlain_record]
    simp only [List.all_cons, List.all_nil, isPlain_str, (Severity.faithful .json).plain,
      faithful_optionalText.plain, hcorrection.plain, hline.plain, Bool.and_self]
  · rw [ofDatum, given_toDatum, Option.bind_eq_bind, Option.bind_some,
      required_bind (Faithful.str.decoded f.ruleId) rfl,
      required_bind ((Severity.faithful .json).decoded f.severity) rfl,
      required_bind (Faithful.str.decoded f.description) rfl,
      optional_bind (faithful_optionalText.decoded f.fix) rfl,
      optional_bind (faithful_optionalText.decoded f.correctionId) rfl,
      optional_bind (hcorrection.decoded f.correction) rfl,
      required_bind (Faithful.str.decoded f.matched) rfl, required_bind hline.decoded rfl]
    rfl

end Finding

namespace CheckResult

/-- The lines of all findings fit in 64 bits. -/
def Fits (r : CheckResult) : Prop := ∀ f ∈ r.findings, f.Fits

lemma given_toDatum (r : CheckResult) :
    r.toDatum.given ["findings", "blocking"]
      = some ⟨false, [some (.list (r.findings.map Finding.toDatum)), some (.bool r.blocking)]⟩ := by
  rw [toDatum, given_record]
  · rfl
  · exact of_decide_eq_true rfl

theorem survives {r : CheckResult} (hr : r.Fits) : Survives toDatum ofDatum r := by
  have hfindings : Survives _ (asList (Finding.ofDatum 2)) r.findings :=
    .list fun f hf => Finding.survives (hr f hf) (by decide)
  constructor
  · rw [toDatum, isPlain_record]
    simp only [List.all_cons, List.all_nil, hfindings.plain, Faithful.bool.plain, Bool.and_self]
  · rw [ofDatum, given_toDatum, Option.bind_eq_bind, Option.bind_some,
      required_bind hfindings.decoded rfl, required_bind (Faithful.bool.decoded r.blocking) rfl]
    rfl

end CheckResult

/-! ## Reports -/

namespace ReportVersion

/-- The parts of a version fit in 32 bits. -/
structure Fits (v : ReportVersion) : Prop where
  major : v.major < 2 ^ 32
  minor : v.minor < 2 ^ 32

lemma given_toDatum (v : ReportVersion) :
    v.toDatum.given ["major", "minor"]
      = some ⟨false, [some (.nat v.major), some (.nat v.minor)]⟩ := by
  rw [toDatum, given_record]
  · rfl
  · exact of_decide_eq_true rfl

theorem survives {v : ReportVersion} (hv : v.Fits) : Survives toDatum ofDatum v := by
  have hmajor : Survives Datum.nat (asNatBelow (Nat.pow 2 32)) v.major := .nat hv.major (by decide)
  have hminor : Survives Datum.nat (asNatBelow (Nat.pow 2 32)) v.minor := .nat hv.minor (by decide)
  constructor
  · rw [toDatum, isPlain_record]
    simp only [List.all_cons, List.all_nil, hmajor.plain, hminor.plain, Bool.and_self]
  · rw [ofDatum, given_toDatum, Option.bind_eq_bind, Option.bind_some,
      required_bind hmajor.decoded rfl, required_bind hminor.decoded rfl]
    rfl

end ReportVersion

namespace Summary

/-- The counts of a report fit in 64 bits. -/
structure Fits (s : Summary) : Prop where
  total : s.total < 2 ^ 64
  errors : s.errors < 2 ^ 64
  warnings : s.warnings < 2 ^ 64
  files : s.files < 2 ^ 64

lemma given_toDatum (s : Summary) :
    s.toDatum.given ["total", "errors", "warnings", "files_checked"]
      = some ⟨false, [some (.nat s.total), some (.nat s.errors), some (.nat s.warnings),
          some (.nat s.files)]⟩ := by
  rw [toDatum, given_record]
  · rfl
  · exact of_decide_eq_true rfl

theorem survives {s : Summary} (hs : s.Fits) : Survives toDatum ofDatum s := by
  have hnat : ∀ n < 2 ^ 64, Survives Datum.nat (asNatBelow (Nat.pow 2 64)) n :=
    fun n hn => .nat hn le_rfl
  constructor
  · rw [toDatum, isPlain_record]
    simp only [List.all_cons, List.all_nil, (hnat _ hs.total).plain, (hnat _ hs.errors).plain,
      (hnat _ hs.warnings).plain, (hnat _ hs.files).plain, Bool.and_self]
  · rw [ofDatum, given_toDatum, Option.bind_eq_bind, Option.bind_some,
      required_bind (hnat _ hs.total).decoded rfl, required_bind (hnat _ hs.errors).decoded rfl,
      required_bind (hnat _ hs.warnings).decoded rfl, required_bind (hnat _ hs.files).decoded rfl]
    rfl

end Summary

namespace FileReport

/-- The lines of all findings in a file fit in 64 bits. -/
def Fits (f : FileReport) : Prop := ∀ x ∈ f.findings, x.Fits

lemma given_toDatum (f : FileReport) :
    f.toDatum.given ["path", "findings"]
      = some ⟨false, [some (str f.path), some (.list (f.findings.map Finding.toDatum))]⟩ := by
  rw [toDatum, given_record]
  · rfl
  · exact of_decide_eq_true rfl

theorem survives {f : FileReport} (hf : f.Fits) : Survives toDatum ofDatum f := by
  have hfindings : Survives _ (asList (Finding.ofDatum 4)) f.findings :=
    .list fun x hx => Finding.survives (hf x hx) (by decide)
  constructor
  · rw [toDatum, isPlain_record]
    simp only [List.all_cons, List.all_nil, isPlain_str, hfindings.plain, Bool.and_self]
  · rw [ofDatum, given_toDatum, Option.bind_eq_bind, Option.bind_some,
      required_bind (Faithful.str.decoded f.path) rfl, required_bind hfindings.decoded rfl]
    rfl

end FileReport

namespace Report

/-- All numbers of a report fit in their bits. -/
structure Fits (r : Report) : Prop where
  version : r.version.Fits
  summary : r.summary.Fits
  files : ∀ f ∈ r.files, f.Fits

lemma given_toDatum (r : Report) :
    r.toDatum.given ["version", "timestamp", "summary", "blocking", "files"]
      = some ⟨false, [some r.version.toDatum, some (str r.timestamp), some r.summary.toDatum,
          some (.bool r.blocking), some (.list (r.files.map FileReport.toDatum))]⟩ := by
  rw [toDatum, given_record]
  · rfl
  · exact of_decide_eq_true rfl

theorem survives {r : Report} (hr : r.Fits) : Survives toDatum ofDatum r := by
  have hversion := ReportVersion.survives hr.version
  have hsummary := Summary.survives hr.summary
  have hfiles : Survives _ (asList FileReport.ofDatum) r.files :=
    .list fun f hf => FileReport.survives (hr.files f hf)
  constructor
  · rw [toDatum, isPlain_record]
    simp only [List.all_cons, List.all_nil, isPlain_str, hversion.plain, hsummary.plain,
      Faithful.bool.plain, hfiles.plain, Bool.and_self]
  · rw [ofDatum, given_toDatum, Option.bind_eq_bind, Option.bind_some,
      required_bind hversion.decoded rfl, required_bind (Faithful.str.decoded r.timestamp) rfl,
      required_bind hsummary.decoded rfl, required_bind (Faithful.bool.decoded r.blocking) rfl,
      required_bind hfiles.decoded rfl]
    rfl

end Report

/-! ## What is read fits -/

lemma Finding.fits_of_ofDatum {d : Datum} {f : Finding} (h : ofDatum around d = some f) :
    f.Fits := by
  simp only [ofDatum, Option.bind_eq_bind, Option.bind_eq_some_iff] at h
  obtain ⟨g, -, ruleId, -, severity, -, description, -, fix, -, correctionId, -, correction, -,
    matched, -, line, hline, heq⟩ := h
  cases heq
  obtain ⟨d', hd'⟩ := exists_of_required hline
  exact lt_of_asNatBelow hd'

lemma CheckResult.fits_of_ofDatum {d : Datum} {r : CheckResult} (h : ofDatum d = some r) :
    r.Fits := by
  simp only [ofDatum, Option.bind_eq_bind, Option.bind_eq_some_iff] at h
  obtain ⟨g, -, findings, hfindings, blocking, -, heq⟩ := h
  cases heq
  intro f hf
  obtain ⟨d', hd'⟩ := exists_of_requiredList hfindings f hf
  exact Finding.fits_of_ofDatum hd'

lemma ReportVersion.fits_of_ofDatum {d : Datum} {v : ReportVersion} (h : ofDatum d = some v) :
    v.Fits := by
  simp only [ofDatum, Option.bind_eq_bind, Option.bind_eq_some_iff] at h
  obtain ⟨g, -, major, hmajor, minor, hminor, heq⟩ := h
  cases heq
  obtain ⟨d₁, hd₁⟩ := exists_of_required hmajor
  obtain ⟨d₂, hd₂⟩ := exists_of_required hminor
  exact ⟨lt_of_asNatBelow hd₁, lt_of_asNatBelow hd₂⟩

lemma Summary.fits_of_ofDatum {d : Datum} {s : Summary} (h : ofDatum d = some s) : s.Fits := by
  simp only [ofDatum, Option.bind_eq_bind, Option.bind_eq_some_iff] at h
  obtain ⟨g, -, total, htotal, errors, herrors, warnings, hwarnings, files, hfiles, heq⟩ := h
  cases heq
  obtain ⟨d₁, hd₁⟩ := exists_of_required htotal
  obtain ⟨d₂, hd₂⟩ := exists_of_required herrors
  obtain ⟨d₃, hd₃⟩ := exists_of_required hwarnings
  obtain ⟨d₄, hd₄⟩ := exists_of_required hfiles
  exact ⟨lt_of_asNatBelow hd₁, lt_of_asNatBelow hd₂, lt_of_asNatBelow hd₃, lt_of_asNatBelow hd₄⟩

lemma FileReport.fits_of_ofDatum {d : Datum} {f : FileReport} (h : ofDatum d = some f) :
    f.Fits := by
  simp only [ofDatum, Option.bind_eq_bind, Option.bind_eq_some_iff] at h
  obtain ⟨g, -, path, -, findings, hfindings, heq⟩ := h
  cases heq
  intro x hx
  obtain ⟨d', hd'⟩ := exists_of_requiredList hfindings x hx
  exact Finding.fits_of_ofDatum hd'

lemma Report.fits_of_ofDatum {d : Datum} {r : Report} (h : ofDatum d = some r) : r.Fits := by
  simp only [ofDatum, Option.bind_eq_bind, Option.bind_eq_some_iff] at h
  obtain ⟨g, -, version, hversion, timestamp, -, summary, hsummary, blocking, -, files, hfiles,
    heq⟩ := h
  cases heq
  obtain ⟨d₁, hd₁⟩ := exists_of_required hversion
  obtain ⟨d₂, hd₂⟩ := exists_of_required hsummary
  refine ⟨ReportVersion.fits_of_ofDatum hd₁, Summary.fits_of_ofDatum hd₂, fun f hf => ?_⟩
  obtain ⟨d', hd'⟩ := exists_of_requiredList hfiles f hf
  exact FileReport.fits_of_ofDatum hd'

/-! ## JSON texts -/

/-- **Rules and reports survive being written.**  A rule, and a finding, a result or a report whose
numbers fit, is read from its own JSON text in either style, and from there decoded; those whose
numbers do not fit are the only ones that do not come back.  In the text an optional field that is
absent is null. -/
theorem rules_and_reports_survive_json (style : Json.Style) :
    (∀ r : Rule, ∃ fields, Json.ofString (Json.write style r.toDatum) = some (.record fields) ∧
      Rule.ofDatum (.record fields) = some r ∧
      (r.fix = none → ("fix_suggestion", .null) ∈ fields) ∧
      (r.correction = none → ("correction_id", .null) ∈ fields)) ∧
    (∀ f : Finding, f.Fits ↔
      ∃ fields, Json.ofString (Json.write style f.toDatum) = some (.record fields) ∧
        Finding.ofDatum 0 (.record fields) = some f ∧
        (f.fix = none → ("fix_suggestion", .null) ∈ fields) ∧
        (f.correctionId = none → ("correction_id", .null) ∈ fields) ∧
        (f.correction = none → ("correction", .null) ∈ fields)) ∧
    (∀ r : CheckResult, r.Fits ↔
      (Json.ofString (Json.write style r.toDatum) >>= CheckResult.ofDatum) = some r) ∧
    (∀ r : Report, r.Fits ↔
      (Json.ofString (Json.write style r.toDatum) >>= Report.ofDatum) = some r) := by
  refine ⟨fun r => ?_, fun f => ⟨fun hf => ?_, ?_⟩, fun r => ⟨fun hr => ?_, fun h => ?_⟩,
    fun r => ⟨fun hr => ?_, fun h => ?_⟩⟩
  · have hr := Rule.faithful.survives r
    refine ⟨_, hr.ofString_write style, hr.decoded, fun hfix => ?_, fun hcorrection => ?_⟩
    · simp [hfix, Datum.option]
    · simp [hcorrection, Datum.option]
  · have hf : Survives Finding.toDatum (Finding.ofDatum 0) f := Finding.survives hf (by decide)
    refine ⟨_, hf.ofString_write style, hf.decoded, fun hfix => ?_, fun hid => ?_,
      fun hcorrection => ?_⟩
    · simp [hfix, Datum.option]
    · simp [hid, Datum.option]
    · simp [hcorrection, Datum.option]
  · rintro ⟨fields, -, hdecoded, -⟩
    exact Finding.fits_of_ofDatum hdecoded
  · have hr := CheckResult.survives hr
    rw [hr.ofString_write style, Option.bind_eq_bind, Option.bind_some, hr.decoded]
  · obtain ⟨d, -, hd⟩ := Option.bind_eq_some_iff.mp h
    exact CheckResult.fits_of_ofDatum hd
  · have hr := Report.survives hr
    rw [hr.ofString_write style, Option.bind_eq_bind, Option.bind_some, hr.decoded]
  · obtain ⟨d, -, hd⟩ := Option.bind_eq_some_iff.mp h
    exact Report.fits_of_ofDatum hd

end Deprecation
