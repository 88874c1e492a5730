/-
# Where a document is divided

The lines of a changelog document fall into stretches: what precedes the first release heading,
and then each heading with the lines below it that are no headings.  This is all there is to the
division of a document, and it fixes it, since whether a line is a heading depends on the line
alone.

A document that is written from the notes of releases has its stretches at hand, if only every
heading is read with the label that it was written with, and none of the lines below is a heading.
-/
import Mathlib
import Deprecation.Proofs.Changelog.Written
import Deprecation.Proofs.Text.Lines

namespace Deprecation.Changelog

open Text

/-! ## Stretches of a document -/

/-- A line that is no heading. -/
def IsPlain (line : List Char) : Prop := headingVersion line = none

/-- A heading and the lines below it. -/
structure Stretch where
  heading : List Char
  version : List Char
  body : List (List Char)
  heading_version : headingVersion heading = some version
  body_plain : ∀ line ∈ body, IsPlain line

namespace Stretch

/-- The lines of a stretch, the heading included. -/
def lines (x : Stretch) : List (List Char) := x.heading :: x.body

/-- The section that a stretch makes. -/
def toSection (x : Stretch) : Section :=
  ⟨String.ofList x.version, String.ofList (unlines x.body)⟩

end Stretch

variable {pre : List (List Char)} {line : List Char}

lemma divide_append_of_plain (h : ∀ line ∈ pre, IsPlain line) (ls : List (List Char)) :
    divide (pre ++ ls) = (pre ++ (divide ls).1, (divide ls).2) := by
  induction pre with
  | nil => rfl
  | cons line pre ih =>
    have hline : headingVersion line = none := h line List.mem_cons_self
    rw [List.cons_append, divide_cons, consLine, hline,
      ih fun l hl => h l (List.mem_cons_of_mem line hl)]
    rfl

lemma divide_stretches (xs : List Stretch) :
    divide (xs.flatMap Stretch.lines) = ([], xs.map Stretch.toSection) := by
  induction xs with
  | nil => rfl
  | cons x xs ih =>
    rw [List.flatMap_cons, Stretch.lines, List.cons_append, divide_cons, consLine,
      x.heading_version, divide_append_of_plain x.body_plain, ih, List.append_nil]
    rfl

/-- Lines fall into stretches, and into what precedes the first of them. -/
lemma exists_stretches (ls : List (List Char)) :
    ∃ (pre : List (List Char)) (xs : List Stretch),
      (∀ line ∈ pre, IsPlain line) ∧ ls = pre ++ xs.flatMap Stretch.lines := by
  induction ls with
  | nil => exact ⟨[], [], by simp, rfl⟩
  | cons line ls ih =>
    obtain ⟨pre, xs, hpre, rfl⟩ := ih
    cases h : headingVersion line with
    | none =>
      refine ⟨line :: pre, xs, ?_, rfl⟩
      intro l hl
      rcases List.mem_cons.mp hl with rfl | hl
      · exact h
      · exact hpre l hl
    | some v =>
      -- the lines that waited for a heading are below this one
      exact ⟨[], ⟨line, v, pre, h, hpre⟩ :: xs, by simp, rfl⟩

/-! ## What is in the sections -/

/-- Whether a line is a release heading. -/
def isHeading (line : List Char) : Bool := (headingVersion line).isSome

lemma isHeading_eq_false_iff : isHeading line = false ↔ IsPlain line := by
  rw [isHeading, IsPlain, Option.isSome_eq_false_iff, Option.isNone_iff_eq_none]

lemma filter_of_plain (h : ∀ line ∈ pre, IsPlain line) : pre.filter (!isHeading ·) = pre := by
  refine List.filter_eq_self.mpr fun line hline => ?_
  rw [isHeading_eq_false_iff.mpr (h line hline)]
  rfl

lemma dropWhile_append_stretches (h : ∀ line ∈ pre, IsPlain line) (xs : List Stretch) :
    (pre ++ xs.flatMap Stretch.lines).dropWhile (!isHeading ·) = xs.flatMap Stretch.lines := by
  have hpre : ∀ line ∈ pre, (!isHeading line) = true := by
    intro line hline
    rw [isHeading_eq_false_iff.mpr (h line hline)]
    rfl
  rw [List.dropWhile_append_of_pos hpre]
  cases xs with
  | nil => rfl
  | cons x xs =>
    have hheading : isHeading x.heading = true := by rw [isHeading, x.heading_version]; rfl
    rw [List.flatMap_cons, Stretch.lines, List.cons_append, List.dropWhile_cons_of_neg]
    simp [hheading]

lemma filter_stretches (xs : List Stretch) :
    (xs.flatMap Stretch.lines).filter (!isHeading ·) = xs.flatMap Stretch.body := by
  induction xs with
  | nil => rfl
  | cons x xs ih =>
    have hheading : isHeading x.heading = true := by rw [isHeading, x.heading_version]; rfl
    rw [List.flatMap_cons, List.flatMap_cons, List.filter_append, ih, Stretch.lines,
      List.filter_cons_of_neg (by simp [hheading]), filter_of_plain x.body_plain]

lemma filterMap_of_plain (h : ∀ line ∈ pre, IsPlain line) : pre.filterMap headingVersion = [] :=
  List.filterMap_eq_nil_iff.mpr h

lemma filterMap_stretches (xs : List Stretch) :
    (xs.flatMap Stretch.lines).filterMap headingVersion = xs.map Stretch.version := by
  induction xs with
  | nil => rfl
  | cons x xs ih =>
    rw [List.flatMap_cons, List.filterMap_append, ih, Stretch.lines,
      List.filterMap_cons_some x.heading_version, filterMap_of_plain x.body_plain]
    rfl

lemma unlines_append (ls ls' : List (List Char)) :
    unlines (ls ++ ls') = unlines ls ++ unlines ls' :=
  List.flatMap_append

lemma join_bodies (xs : List Stretch) :
    String.join (xs.map fun x => x.toSection.body)
      = String.ofList (unlines (xs.flatMap Stretch.body)) := by
  rw [← String.toList_inj, String.toList_join, String.toList_ofList, List.flatMap_map]
  induction xs with
  | nil => rfl
  | cons x xs ih =>
    rw [List.flatMap_cons, List.flatMap_cons, unlines_append, ih, Stretch.toSection,
      String.toList_ofList]

/-! ## Documents as they are written -/

/-- How the heading of a release is written. -/
inductive Style where
  /-- `## 2.1.0` -/
  | bare
  /-- `# v2.1.0` -/
  | marked
  /-- `### [2.1.0] - 2024-01-01` -/
  | dated (date : List Char) (date_line : '\n' ∉ date)
  /-- `## [2.1.0](https://example.org/2.1.0) - 2024-01-01` -/
  | linked (url date : List Char) (url_closed : ')' ∉ url) (url_line : '\n' ∉ url)
    (date_line : '\n' ∉ date)

/-- The heading of a release with a label. -/
def Style.heading : Style → List Char → List Char
  | bare, v => ['#', '#', ' '] ++ v
  | marked, v => ['#', ' ', 'v'] ++ v
  | dated date _, v => ['#', '#', '#', ' ', '['] ++ v ++ [']', ' ', '-', ' '] ++ date
  | linked url date _ _ _, v =>
    ['#', '#', ' ', '['] ++ v ++ [']', '('] ++ url ++ [')', ' ', '-', ' '] ++ date

/-- The notes of a release as they are written in a document. -/
structure Notes where
  label : Label
  style : Style
  body : List (List Char)
  body_lines : ∀ line ∈ body, '\n' ∉ line ∧ line.getLast? ≠ some '\r'
  body_plain : ∀ line ∈ body, IsPlain line

namespace Notes

/-- The lines of the notes, the heading included. -/
def lines (x : Notes) : List (List Char) := x.style.heading x.label.spelled :: x.body

/-- The section that the notes are. -/
def toSection (x : Notes) : Section :=
  ⟨String.ofList x.label.spelled, String.ofList (unlines x.body)⟩

end Notes

/-- The text of a document with the notes of some releases. -/
def document (notes : List Notes) : String := String.ofList (unlines (notes.flatMap Notes.lines))

lemma isGap_blank : IsGap [' '] := by
  refine ⟨List.cons_ne_nil _ _, ?_⟩
  intro c hc
  rw [List.mem_singleton.mp hc]
  rfl

/-- A heading without a date is a line as it is. -/
lemma dropReturn_append_spelled (s : List Char) (v : Label) :
    dropReturn (s ++ v.spelled) = s ++ v.spelled := by
  refine dropReturn_of_no_return fun hlast => ?_
  have hne : v.spelled ≠ [] := by simp [Label.spelled, v.major_number.1]
  rw [List.getLast?_append_of_ne_nil s hne] at hlast
  exact notMem_spelled (by decide) (List.mem_of_getLast? hlast)

/-- A heading is read, also when the date ends with a carriage return, which is taken off with the
newline. -/
lemma headingVersion_heading (style : Style) (v : Label) :
    headingVersion (dropReturn (style.heading v.spelled)) = some v.spelled := by
  cases style with
  | bare =>
    rw [Style.heading, dropReturn_append_spelled]
    have hread := headingVersion_append (n := 2) (by decide) (by decide) isGap_blank (Or.inl rfl)
      (Or.inl rfl) v (Or.inl rfl) (Or.inl rfl) (r := []) rfl
    simpa using hread
  | marked =>
    rw [Style.heading, dropReturn_append_spelled]
    have hread := headingVersion_append (n := 1) (by decide) (by decide) isGap_blank (Or.inl rfl)
      (Or.inr rfl) v (Or.inl rfl) (Or.inl rfl) (r := []) rfl
    simpa using hread
  | dated date hdate =>
    have hsplit : Style.heading (.dated date hdate) v.spelled
        = (['#', '#', '#', ' ', '['] ++ v.spelled ++ [']']) ++ ' ' :: (['-', ' '] ++ date) := by
      simp [Style.heading]
    obtain ⟨rest, hrest⟩ := exists_dropReturn_append (c := ' ') (by decide)
      (['#', '#', '#', ' ', '['] ++ v.spelled ++ [']']) (['-', ' '] ++ date)
    have hread := headingVersion_append (n := 3) (by decide) (by decide) isGap_blank (Or.inr rfl)
      (Or.inl rfl) v (Or.inr rfl) (Or.inl rfl) (r := ' ' :: rest) rfl
    rw [hsplit, hrest]
    simpa using hread
  | linked url date hclosed hurl hdate =>
    have hsplit : Style.heading (.linked url date hclosed hurl hdate) v.spelled
        = (['#', '#', ' ', '['] ++ v.spelled ++ [']', '('] ++ url ++ [')']) ++ ' ' ::
          (['-', ' '] ++ date) := by
      simp [Style.heading]
    obtain ⟨rest, hrest⟩ := exists_dropReturn_append (c := ' ') (by decide)
      (['#', '#', ' ', '['] ++ v.spelled ++ [']', '('] ++ url ++ [')']) (['-', ' '] ++ date)
    have hread := headingVersion_append (n := 2) (by decide) (by decide) isGap_blank (Or.inr rfl)
      (Or.inl rfl) v (Or.inr rfl) (Or.inr ⟨url, hclosed, rfl⟩) (r := ' ' :: rest) rfl
    rw [hsplit, hrest]
    simpa using hread

lemma newline_notMem_heading (style : Style) (v : Label) :
    '\n' ∉ style.heading v.spelled := by
  have hlabel : '\n' ∉ v.spelled := notMem_spelled (by decide)
  cases style with
  | bare => simp [Style.heading, hlabel]
  | marked => simp [Style.heading, hlabel]
  | dated date hdate => simp [Style.heading, hlabel, hdate]
  | linked url date hclosed hurl hdate => simp [Style.heading, hlabel, hurl, hdate]

lemma lines_unlines {ls : List (List Char)} (h : ∀ line ∈ ls, '\n' ∉ line) :
    lines (unlines ls) = ls.map dropReturn := by
  induction ls with
  | nil => rfl
  | cons line ls ih =>
    have hsplit : unlines (line :: ls) = line ++ '\n' :: unlines ls := by simp [unlines]
    rw [hsplit, lines_append_newline (h line List.mem_cons_self),
      ih fun l hl => h l (List.mem_cons_of_mem line hl), List.map_cons]

namespace Notes

lemma newline_notMem (x : Notes) : ∀ line ∈ x.lines, '\n' ∉ line := by
  intro line hline
  rcases List.mem_cons.mp hline with rfl | hline
  · exact newline_notMem_heading x.style x.label
  · exact (x.body_lines line hline).1

/-- The stretch of the document that the notes make. -/
def toStretch (x : Notes) : Stretch where
  heading := dropReturn (x.style.heading x.label.spelled)
  version := x.label.spelled
  body := x.body
  heading_version := headingVersion_heading x.style x.label
  body_plain := x.body_plain

lemma lines_toStretch (x : Notes) : x.toStretch.lines = x.lines.map dropReturn := by
  have hbody : x.body.map dropReturn = x.body := by
    conv_rhs => rw [← List.map_id x.body]
    refine List.map_congr_left fun line hline => ?_
    exact dropReturn_of_no_return (x.body_lines line hline).2
  rw [Stretch.lines, lines, List.map_cons, hbody]
  rfl

end Notes

/-- **A document is divided at its headings.**  The notes of any releases, written one below the
other with headings in any of the four styles, are read as they were written.  And whatever a
document holds, its sections are told by its lines: there is one for each heading, with the label
of the heading, in order; and their bodies one behind the other are the lines that follow the
first heading and are no headings, each ended by a newline. -/
theorem documents_divide_at_headings :
    (∀ notes : List Notes, sections (document notes) = notes.map Notes.toSection) ∧
    ∀ text : String,
      (sections text).map Section.version
        = ((lines text.toList).filterMap headingVersion).map String.ofList ∧
      String.join ((sections text).map Section.body)
        = String.ofList (unlines (((lines text.toList).dropWhile (!isHeading ·)).filter
            (!isHeading ·))) := by
  refine ⟨fun notes => ?_, fun text => ?_⟩
  · have hlines : ∀ line ∈ notes.flatMap Notes.lines, '\n' ∉ line := by
      intro line hline
      obtain ⟨x, -, hx⟩ := List.mem_flatMap.mp hline
      exact x.newline_notMem line hx
    have hstretches : (notes.flatMap Notes.lines).map dropReturn
        = (notes.map Notes.toStretch).flatMap Stretch.lines := by
      rw [List.map_flatMap, List.flatMap_map]
      refine List.flatMap_congr fun x _ => ?_
      exact (x.lines_toStretch).symm
    rw [sections, document, String.toList_ofList, lines_unlines hlines, hstretches,
      divide_stretches, List.map_map]
    rfl
  · obtain ⟨pre, xs, hpre, hls⟩ := exists_stretches (lines text.toList)
    have hsections : sections text = xs.map Stretch.toSection := by
      rw [sections, hls, divide_append_of_plain hpre, divide_stretches]
    rw [hsections, hls, dropWhile_append_stretches hpre, filter_stretches, List.filterMap_append,
      filterMap_of_plain hpre, filterMap_stretches, List.map_map, List.map_map]
    refine ⟨?_, join_bodies xs⟩
    rw [List.nil_append, List.map_map]
    rfl

/-- The notes of a release candidate, under a heading with a link and a date. -/
def candidateNotes : Notes where
  label :=
    { major := ['2']
      minors := [['1'], ['0']]
      tag := ['r', 'c', '.', '1']
      major_number := isNumber_digit (by cbv)
      minors_numbers := by
        intro d hd
        simp only [List.mem_cons, List.not_mem_nil, or_false] at hd
        rcases hd with rfl | rfl <;> exact isNumber_digit (by cbv)
      tag_chars := List.all_eq_true.mp rfl }
  style := .linked ['u'] ['d'] (by decide) (by decide) (by decide)
  body := [['a'], []]
  body_lines := by decide
  body_plain := by
    intro line hline
    simp only [List.mem_cons, List.not_mem_nil, or_false] at hline
    rcases hline with rfl | rfl <;> rfl

/-- The notes of the release before, under a heading with its version alone. -/
def earlierNotes : Notes where
  label :=
    { major := ['1']
      minors := []
      tag := []
      major_number := isNumber_digit (by cbv)
      minors_numbers := List.forall_mem_nil _
      tag_chars := List.forall_mem_nil _ }
  style := .bare
  body := [['b']]
  body_lines := by decide
  body_plain := List.forall_mem_singleton.mpr rfl

/-- The notes of both releases, one below the other. -/
theorem candidateNotes_are_read :
    document [candidateNotes, earlierNotes] = "## [2.1.0-rc.1](u) - d\na\n\n## 1\nb\n" ∧
    sections (document [candidateNotes, earlierNotes])
      = [⟨"2.1.0-rc.1", "a\n\n"⟩, ⟨"1", "b\n"⟩] :=
  ⟨rfl, documents_divide_at_headings.1 [candidateNotes, earlierNotes]⟩
example :
    sections "all notes\n## [1.0-rc.1](u) - d\na\n\n# v2\n#### 3\n"
      = [⟨"1.0-rc.1", "a\n\n"⟩, ⟨"2", "#### 3\n"⟩] := by
  cbv

end Deprecation.Changelog
