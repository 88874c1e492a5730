/-
# The store

A store holds the static rules in the order in which they were declared, the mined rules and
the knowledge entries by id.  Beside these it keeps two things that follow from them: the
compiled pattern of every rule, and the list of the *active* rules, that is of those that
checks apply.  The active rules are the static ones, then the approved mined ones by age.

A store is a value.  An operation that succeeds gives a new store, whose active list is made
anew; an operation that fails gives none.
-/
import Deprecation.Keyed
import Deprecation.Knowledge
import Deprecation.Regex

namespace Deprecation

/-- A rule that checks apply, with its compiled pattern. -/
structure ActiveRule where
  rule : Rule
  regex : Regex
deriving Repr, Inhabited

/-- The rules and entries that are known. -/
structure Store where
  /-- In the order of declaration. -/
  statics : List StaticRule
  mined : Keyed MinedRule
  entries : Keyed Entry
  /-- The compiled patterns of all rules by the rules' ids. -/
  patterns : Keyed Regex
  /-- What checks apply, in order. -/
  active : List ActiveRule

/-! ## The order of age -/

namespace MinedRule

/-- Older rules come first; of rules that were made together, the one with the smaller id. -/
def Precedes (r s : MinedRule) : Prop :=
  r.madeAt < s.madeAt ∨ r.madeAt = s.madeAt ∧ r.id < s.id

instance (r s : MinedRule) : Decidable (r.Precedes s) :=
  inferInstanceAs (Decidable (_ ∨ _ ∧ _))

/-- Puts a rule into a list in order of age. -/
def insertByAge (r : MinedRule) : List MinedRule → List MinedRule
  | [] => [r]
  | s :: rest => if r.Precedes s then r :: s :: rest else s :: insertByAge r rest

/-- Rules in order of age. -/
def byAge (rules : List MinedRule) : List MinedRule :=
  rules.foldr insertByAge []

theorem mem_insertByAge {r x : MinedRule} {l : List MinedRule} :
    x ∈ insertByAge r l ↔ x = r ∨ x ∈ l := by
  induction l with
  | nil => simp [insertByAge]
  | cons s rest ih =>
    rw [insertByAge]
    split
    · simp
    · simp only [List.mem_cons, ih]
      grind

/-- Ordering rules by age neither loses nor adds one. -/
theorem mem_byAge {x : MinedRule} {l : List MinedRule} : x ∈ byAge l ↔ x ∈ l := by
  induction l with
  | nil => simp [byAge]
  | cons r rest ih =>
    rw [byAge, List.foldr_cons, ← byAge, mem_insertByAge, ih, List.mem_cons]

end MinedRule

namespace Store

/-! ## Looking up -/

/-- The store that holds nothing. -/
def empty : Store := ⟨[], .empty, .empty, .empty, []⟩

instance : Inhabited Store := ⟨empty⟩

/-- Whether an id belongs to a static rule. -/
def isStatic (s : Store) (id : String) : Bool := s.statics.any (·.id == id)

theorem isStatic_iff {s : Store} {id : String} :
    s.isStatic id = true ↔ ∃ r ∈ s.statics, r.id = id := by
  simp [isStatic]

/-- The approved mined rules by age. -/
def approved (s : Store) : List MinedRule :=
  MinedRule.byAge (s.mined.values.filter (·.status = .approved))

theorem mem_approved {s : Store} {r : MinedRule} :
    r ∈ s.approved ↔ r ∈ s.mined.values ∧ r.status = .approved := by
  simp [approved, MinedRule.mem_byAge]

/-- The rules that are to be active, in order. -/
def activeViews (s : Store) : List Rule :=
  s.statics.map StaticRule.view ++ s.approved.map MinedRule.view

/-! ## What follows from the rules -/

/-- A rule with the compiled pattern that is kept for its id. -/
def withRegex (patterns : Keyed Regex) (r : Rule) : Option ActiveRule :=
  (patterns.find? r.id).map (⟨r, ·⟩)

/-- The store with its active list made anew. -/
def refresh (s : Store) : Store :=
  { s with active := s.activeViews.filterMap (withRegex s.patterns) }

@[simp] theorem statics_refresh (s : Store) : s.refresh.statics = s.statics := rfl

@[simp] theorem mined_refresh (s : Store) : s.refresh.mined = s.mined := rfl

@[simp] theorem entries_refresh (s : Store) : s.refresh.entries = s.entries := rfl

@[simp] theorem patterns_refresh (s : Store) : s.refresh.patterns = s.patterns := rfl

@[simp] theorem refresh_refresh (s : Store) : s.refresh.refresh = s.refresh := rfl

/-- Exchanges the static rules, with their compiled patterns, and the entries. -/
def replaceStatics (s : Store) (rules : List (StaticRule × Regex)) (entries : List Entry) :
    Store :=
  let cleared := s.statics.foldl (fun t r => t.erase r.id) s.patterns
  { s with
    statics := rules.map (·.1)
    entries := Keyed.ofList Entry.id entries
    patterns := rules.foldl (fun t r => t.insert r.1.id r.2) cleared }

/-- Puts an entry in the place of the one with its id. -/
def putEntry (s : Store) (e : Entry) : Store :=
  { s with entries := s.entries.insert e.id e }

/-- Puts a mined rule with its compiled pattern in the place of the one with its id. -/
def putMined (s : Store) (r : MinedRule) (x : Regex) : Store :=
  { s with mined := s.mined.insert r.id r, patterns := s.patterns.insert r.id x }

end Store

end Deprecation
