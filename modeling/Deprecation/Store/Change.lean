/-
# Changing a store

The four ways in which a store changes from within: the catalogue is loaded, entries are
added, a mined rule is submitted, and a mined rule is reviewed.

Loading a catalogue exchanges all static rules and all entries at once, and leaves the mined
rules alone.  A submitted rule is a draft; it may take the place of an older draft with its
id but never of a reviewed rule.  A rule that is submitted again as it stands is left as it
is, whatever its review has come to.
-/
import Deprecation.Store
import Deprecation.Store.Error

namespace Deprecation

/-! ## Compiling many patterns -/

/-- Compiles the pattern of a rule. -/
def compileRule (id pattern : String) : Except StoreError Regex :=
  match Regex.compile pattern with
  | some x => .ok x
  | none => .error (.invalidPattern id)

/-- Compiles the patterns of rules whose ids differ from each other and from those seen
before, unless there is an objection to one of the rules.  The first rule at fault decides,
and of its faults the id, then the objection, then the pattern. -/
def compileAll {α : Type} (view : α → Rule) (objection : α → Option StoreError) :
    List String → List α → Except StoreError (List (α × Regex))
  | _, [] => .ok []
  | seen, r :: rest =>
    if (view r).id ∈ seen then .error (.duplicateRule (view r).id)
    else match objection r with
      | some e => .error e
      | none => do
        let x ← compileRule (view r).id (view r).pattern
        let others ← compileAll view objection ((view r).id :: seen) rest
        .ok ((r, x) :: others)

namespace Store

/-! ## The catalogue -/

/-- Objects to a rule that refers to none of the given entries. -/
def danglingAmong (entries : List Entry) (r : StaticRule) : Option StoreError :=
  match r.correction with
  | some c => if entries.any (·.id == c) then none else some (.danglingCorrection r.id c)
  | none => none

/-- Loads a catalogue in place of the one before. -/
def loadStatics (s : Store) (rules : List StaticRule) (entries : List Entry) :
    Except StoreError Store := do
  let compiled ← compileAll StaticRule.view (danglingAmong entries) [] rules
  match rules.find? fun r => s.mined.has r.id with
  | some clash => .error (.duplicateRule clash.id)
  | none => .ok (s.replaceStatics compiled entries).refresh

/-- Adds entries, each in the place of the one with its id. -/
def addEntries (s : Store) (entries : List Entry) : Store :=
  (entries.foldl putEntry s).refresh

/-! ## Mined rules -/

/-- What became of a submitted rule. -/
inductive Submission where
  /-- Its id is new. -/
  | inserted
  /-- It took the place of a draft. -/
  | replaced
  /-- The store held it already. -/
  | unchanged
deriving DecidableEq, Repr, Inhabited

/-- Objects to a mined rule that refers to no entry of the store. -/
def dangling (s : Store) (r : MinedRule) : Option StoreError :=
  match r.correction with
  | some c => if s.entries.has c then none else some (.danglingCorrection r.id c)
  | none => none

/-- What is to become of a rule, by the rule that the store holds under its id. -/
def submissionOf (held : Option MinedRule) (r : MinedRule) : Except StoreError Submission :=
  match held with
  | none => .ok .inserted
  | some old =>
    if old.sameContent r then .ok .unchanged
    else if old.status.isFinal then .error (.alreadyReviewed r.id old.status)
    else .ok .replaced

/-- Submits a mined rule. -/
def submit (s : Store) (r : MinedRule) : Except StoreError (Submission × Store) := do
  if (Text.trimmed r.release).isEmpty then throw (.missingRelease r.id)
  if r.status ≠ .draft then throw (.notDraft r.id r.status)
  let x ← compileRule r.id r.pattern
  if s.isStatic r.id then throw (.staticConflict r.id)
  if let some e := s.dangling r then throw e
  match ← submissionOf (s.mined.find? r.id) r with
  | .unchanged => .ok (.unchanged, s)
  | outcome => .ok (outcome, (s.putMined r x).refresh)

/-- Moves a mined rule to another status. -/
def setStatus (s : Store) (id : String) (status : Status) :
    Except StoreError (MinedRule × Store) :=
  match s.mined.find? id with
  | none => .error (if s.isStatic id then .staticConflict id else .unknownRule id)
  | some r =>
    if r.status.canBecome status then
      let reviewed := { r with status }
      .ok (reviewed, { s with mined := s.mined.insert id reviewed }.refresh)
    else .error (.invalidTransition id r.status status)

/-- Reviews a mined rule. -/
def review (s : Store) (id : String) (d : Decision) : Except StoreError (MinedRule × Store) :=
  s.setStatus id d.status

end Store

end Deprecation
