/-
# Rules

A rule says that source text which matches its pattern is at fault.  There are two kinds.
*Static* rules are written by hand and come with the catalogue.  *Mined* rules are made from
deprecation records; each starts as a draft and takes part in checks only when a review has
approved it.  A review moves a draft to approved or rejected, once.

Checks see both kinds through one view, which forgets the review and the time.
-/
import Deprecation.Instant
import Deprecation.Record
import Deprecation.Text.Blank

namespace Deprecation

/-! ## Reviews -/

/-- Where a mined rule stands in its review. -/
inductive Status where
  /-- Not reviewed yet. -/
  | draft
  /-- Takes part in checks. -/
  | approved
  /-- Discarded. -/
  | rejected
deriving DecidableEq, Repr, Inhabited

namespace Status

/-- The word for a status. -/
def name : Status → String
  | draft => "draft"
  | approved => "approved"
  | rejected => "rejected"

/-- All statuses. -/
def all : List Status := [draft, approved, rejected]

/-- A status that never changes. -/
def isFinal : Status → Bool
  | draft => false
  | approved | rejected => true

/-- A draft may be approved or rejected; nothing else changes. -/
def canBecome : Status → Status → Bool
  | draft, approved | draft, rejected => true
  | _, _ => false

theorem canBecome_iff {s t : Status} :
    s.canBecome t = true ↔ s = .draft ∧ t ≠ .draft := by
  cases s <;> cases t <;> simp [canBecome]

end Status

/-- What a review decides. -/
inductive Decision where
  | approved
  | rejected
deriving DecidableEq, Repr, Inhabited

namespace Decision

/-- The word for a decision. -/
def name : Decision → String
  | approved => "approved"
  | rejected => "rejected"

/-- All decisions. -/
def all : List Decision := [approved, rejected]

/-- The status that a decision leads to. -/
def status : Decision → Status
  | approved => .approved
  | rejected => .rejected

theorem canBecome_status (d : Decision) : Status.draft.canBecome d.status = true := by
  cases d <;> rfl

/-- The decision that an operator's word names, in any case. -/
def ofWord (word : String) : Option Decision :=
  let word := word.map Char.toLower
  if word = "approve" ∨ word = "approved" then some approved
  else if word = "reject" ∨ word = "rejected" then some rejected
  else none

/-- What is said of a word that names no decision. -/
def unknownWord (word : String) : String :=
  "unknown review decision '" ++ word.map Char.toLower ++ "' (expected approve or reject)"

end Decision

/-! ## The two kinds of rules -/

/-- A rule written by hand. -/
structure StaticRule where
  id : String
  /-- The regular expression that source text is searched for. -/
  pattern : String
  /-- What is wrong with a text that matches. -/
  description : String
  /-- The knowledge entry that documents the correct usage. -/
  correction : Option String
  severity : Severity
deriving DecidableEq, Repr, Inhabited

/-- A rule made from a deprecation record. -/
structure MinedRule where
  id : String
  /-- The token that the record deprecates. -/
  token : String
  category : Category
  /-- The regular expression that source text is searched for. -/
  pattern : String
  /-- What is wrong with a text that matches. -/
  description : String
  severity : Severity
  /-- What to do instead, when the release says so. -/
  fix : Option String
  /-- The knowledge entry that documents the correct usage. -/
  correction : Option String
  /-- The release that the rule was mined from. -/
  release : String
  status : Status
  /-- When the rule was made. -/
  madeAt : Instant
deriving DecidableEq, Repr, Inhabited

namespace MinedRule

/-- Whether two rules agree in all but review and time. -/
def sameContent (r s : MinedRule) : Bool :=
  { r with status := s.status, madeAt := s.madeAt } == s

theorem sameContent_iff {r s : MinedRule} :
    r.sameContent s = true ↔ { r with status := s.status, madeAt := s.madeAt } = s := by
  simp [sameContent]

@[simp] theorem sameContent_self (r : MinedRule) : r.sameContent r = true := by
  simp [sameContent]

theorem sameContent_symm {r s : MinedRule} (h : r.sameContent s = true) :
    s.sameContent r = true := by
  rw [sameContent_iff] at h ⊢
  rw [← h]

theorem sameContent_trans {r s t : MinedRule} (hrs : r.sameContent s = true)
    (hst : s.sameContent t = true) : r.sameContent t = true := by
  rw [sameContent_iff] at hrs hst ⊢
  rw [← hst, ← hrs]

end MinedRule

/-! ## The common view -/

/-- Where a rule comes from. -/
inductive Origin where
  /-- From the catalogue. -/
  | static
  /-- From the notes of a release. -/
  | mined (release : String)
deriving DecidableEq, Repr, Inhabited

/-- A rule of either kind as checks see it. -/
structure Rule where
  id : String
  pattern : String
  description : String
  severity : Severity
  fix : Option String
  correction : Option String
  origin : Origin
deriving DecidableEq, Repr, Inhabited

/-- A static rule as checks see it. -/
def StaticRule.view (r : StaticRule) : Rule :=
  ⟨r.id, r.pattern, r.description, r.severity, none, r.correction, .static⟩

/-- A mined rule as checks see it. -/
def MinedRule.view (r : MinedRule) : Rule :=
  ⟨r.id, r.pattern, r.description, r.severity, r.fix, r.correction, .mined r.release⟩

@[simp] theorem StaticRule.id_view (r : StaticRule) : r.view.id = r.id := rfl

@[simp] theorem StaticRule.pattern_view (r : StaticRule) : r.view.pattern = r.pattern := rfl

@[simp] theorem MinedRule.id_view (r : MinedRule) : r.view.id = r.id := rfl

@[simp] theorem MinedRule.pattern_view (r : MinedRule) : r.view.pattern = r.pattern := rfl

end Deprecation
