/-
# What a report holds

A report takes up the results of a check one file at a time.  A file without findings changes
nothing but the number of files; since its findings would add nothing to the other counts, to the
list or to the flag that blocks, it need not be told apart.  So what a report holds is a sum over all
files, in whatever order they came.
-/
import Mathlib
import Deprecation.Report

namespace Deprecation.Report

/-- The report on one file with some findings; none is listed if there are none. -/
def fileReports (path : String) (findings : List Finding) : List FileReport :=
  if findings.isEmpty then [] else [⟨path, findings⟩]

/-- A report and the results that it has taken up. -/
structure Covers (r : Report) (results : List (String × CheckResult)) : Prop where
  files_checked : r.summary.files = results.length
  total : r.summary.total = (results.map fun f => f.2.findings.length).sum
  errors : r.summary.errors = (results.map fun f => count .error f.2.findings).sum
  warnings : r.summary.warnings = (results.map fun f => count .warning f.2.findings).sum
  blocking : r.blocking = true ↔ ∃ f ∈ results, ∃ g ∈ f.2.findings, g.severity = .error
  listed : r.files = results.flatMap fun f => fileReports f.1 f.2.findings

lemma covers_empty (timestamp : String) : (empty timestamp).Covers [] where
  files_checked := rfl
  total := rfl
  errors := rfl
  warnings := rfl
  blocking := by simp [empty]
  listed := rfl

variable {r : Report} {results more : List (String × CheckResult)}

lemma blocking_ofFindings_iff (fs : List Finding) :
    (CheckResult.ofFindings fs).blocking = true ↔ ∃ g ∈ fs, g.severity = .error := by
  simp [Finding.isError]

lemma Covers.addFile (h : r.Covers results) (path : String) (fs : List Finding) :
    (r.addFile path (.ofFindings fs)).Covers (results ++ [(path, .ofFindings fs)]) := by
  rw [Report.addFile, CheckResult.findings_ofFindings]
  -- without findings only the file is counted, and all other sums gain nothing
  cases hempty : fs.isEmpty with
  | true =>
    obtain rfl := List.isEmpty_iff.mp hempty
    refine ⟨?_, ?_, ?_, ?_, ?_, ?_⟩
    · simp [h.files_checked]
    · simp [h.total]
    · simp [h.errors, count]
    · simp [h.warnings, count]
    · simp [h.blocking]
    · simp [h.listed, fileReports]
  | false =>
    have hne : fs ≠ [] := List.isEmpty_eq_false_iff.mp hempty
    refine ⟨?_, ?_, ?_, ?_, ?_, ?_⟩
    · simp [h.files_checked]
    · simp [h.total]
    · simp [h.errors]
    · simp [h.warnings]
    · simp only [Bool.false_eq_true, if_false, Bool.or_eq_true, h.blocking,
        blocking_ofFindings_iff, List.mem_append, List.mem_singleton, or_and_right, exists_or,
        exists_eq_left, CheckResult.findings_ofFindings]
    · simp [h.listed, fileReports, hne]

/-- **A report covers the results that were added to it.** -/
theorem Covers.addFiles (h : r.Covers results) (hmore : ∀ f ∈ more, ∃ fs, f.2 = .ofFindings fs) :
    (r.addFiles more).Covers (results ++ more) := by
  induction more generalizing r results with
  | nil => rwa [List.append_nil]
  | cons f more ih =>
    obtain ⟨⟨fs, hf⟩, hmore⟩ := List.forall_mem_cons.mp hmore
    have hstep : (r.addFile f.1 f.2).Covers (results ++ [f]) := by
      have hpair : f = (f.1, CheckResult.ofFindings fs) := Prod.ext rfl hf
      rw [hpair]
      exact h.addFile f.1 fs
    have hrest := ih hstep hmore
    rwa [List.append_assoc, List.singleton_append] at hrest

/-! ## Reports on findings -/

/-- The report on files with these findings, in order. -/
def ofFindings (timestamp : String) (files : List (String × List Finding)) : Report :=
  (empty timestamp).addFiles (files.map fun f => (f.1, .ofFindings f.2))

/-- All findings in some files. -/
def allFindings (files : List (String × List Finding)) : List Finding :=
  files.flatMap fun f => f.2

lemma covers_ofFindings (timestamp : String) (files : List (String × List Finding)) :
    (ofFindings timestamp files).Covers (files.map fun f => (f.1, .ofFindings f.2)) := by
  refine (covers_empty timestamp).addFiles ?_
  intro f hf
  obtain ⟨g, -, rfl⟩ := List.mem_map.mp hf
  exact ⟨g.2, rfl⟩

/-- The counts of a report are those of all findings taken together. -/
lemma summary_ofFindings (timestamp : String) (files : List (String × List Finding)) :
    (ofFindings timestamp files).summary =
      { total := (allFindings files).length
        errors := count .error (allFindings files)
        warnings := count .warning (allFindings files)
        files := files.length } := by
  have h := covers_ofFindings timestamp files
  have htotal : (ofFindings timestamp files).summary.total = (allFindings files).length := by
    rw [h.total, allFindings, List.length_flatMap, List.map_map]
    rfl
  have hcount (severity : Severity) : count severity (allFindings files)
      = (files.map fun f => count severity f.2).sum := by
    rw [count, allFindings, List.countP_flatMap]
    rfl
  have herrors := h.errors
  have hwarnings := h.warnings
  rw [List.map_map] at herrors hwarnings
  show (⟨(ofFindings timestamp files).summary.total, _, _, _⟩ : Summary) = _
  rw [htotal, herrors, hwarnings, h.files_checked, List.length_map, hcount, hcount]
  rfl

lemma blocking_ofFindings_iff_count (timestamp : String) (files : List (String × List Finding)) :
    (ofFindings timestamp files).blocking = true ↔ 0 < count .error (allFindings files) := by
  rw [(covers_ofFindings timestamp files).blocking, count, List.countP_pos_iff]
  constructor
  · rintro ⟨f, hf, g, hg, herror⟩
    obtain ⟨f', hf', rfl⟩ := List.mem_map.mp hf
    exact ⟨g, List.mem_flatMap.mpr ⟨f', hf', hg⟩, by simpa using herror⟩
  · rintro ⟨g, hg, herror⟩
    obtain ⟨f, hf, hg⟩ := List.mem_flatMap.mp hg
    exact ⟨_, List.mem_map.mpr ⟨f, hf, rfl⟩, g, hg, by simpa using herror⟩

lemma files_ofFindings (timestamp : String) (files : List (String × List Finding)) :
    (ofFindings timestamp files).files
      = (files.filter fun f => !f.2.isEmpty).map fun f => ⟨f.1, f.2⟩ := by
  rw [(covers_ofFindings timestamp files).listed, List.flatMap_map]
  induction files with
  | nil => rfl
  | cons f files ih =>
    rw [List.flatMap_cons, ih, CheckResult.findings_ofFindings, fileReports]
    cases hempty : f.2.isEmpty with
    | true => simp [hempty]
    | false => simp [hempty]

/-- The files that are left out have no findings. -/
lemma flatMap_findings_files (timestamp : String) (files : List (String × List Finding)) :
    (ofFindings timestamp files).files.flatMap FileReport.findings = allFindings files := by
  rw [files_ofFindings, List.flatMap_map, allFindings]
  induction files with
  | nil => rfl
  | cons f files ih =>
    cases hempty : f.2.isEmpty with
    | true => simp [ih, List.isEmpty_iff.mp hempty]
    | false => simp [hempty, ih]

/-- Every finding is an error or a warning. -/
lemma length_eq_count_add_count (fs : List Finding) :
    fs.length = count .error fs + count .warning fs := by
  rw [count, count, List.length_eq_countP_add_countP fun f : Finding => f.severity == .error]
  refine congrArg (_ + ·) (List.countP_congr fun f _ => ?_)
  cases f.severity <;> simp

/-- **The parts of a report add up.**  Every file counts as checked; the files with findings are
listed in order with their findings; the totals count the findings in the listed files, by severity
and together; and the report blocks just when there is an error.  In another order the same files
give the same summary, and the report blocks or does not as before. -/
theorem reports_add_up (timestamp : String) (files : List (String × List Finding)) :
    let r := ofFindings timestamp files
    let listed := r.files.flatMap FileReport.findings
    r.summary.files = files.length ∧
    r.summary.total = listed.length ∧
    r.summary.total = r.summary.errors + r.summary.warnings ∧
    r.summary.errors = count .error listed ∧
    r.summary.warnings = count .warning listed ∧
    (r.blocking = true ↔ 0 < r.summary.errors) ∧
    r.files = (files.filter fun f => !f.2.isEmpty).map (fun f => ⟨f.1, f.2⟩) ∧
    ∀ (timestamp' : String) (files' : List (String × List Finding)), files.Perm files' →
      (ofFindings timestamp' files').summary = r.summary ∧
      (ofFindings timestamp' files').blocking = r.blocking := by
  intro r listed
  have hlisted : listed = allFindings files := flatMap_findings_files timestamp files
  have hsummary := summary_ofFindings timestamp files
  have hblocking := blocking_ofFindings_iff_count timestamp files
  rw [hlisted, hsummary]
  refine ⟨rfl, rfl, length_eq_count_add_count _, rfl, rfl, hblocking,
    files_ofFindings timestamp files, ?_⟩
  intro timestamp' files' hperm
  have hall : (allFindings files').Perm (allFindings files) := hperm.symm.flatMap_right _
  have hcount (severity : Severity) :
      count severity (allFindings files') = count severity (allFindings files) :=
    hall.countP_eq _
  constructor
  · rw [summary_ofFindings, hcount, hcount, hall.length_eq, hperm.length_eq]
  · rw [Bool.eq_iff_iff, hblocking, blocking_ofFindings_iff_count, hcount]

end Deprecation.Report
