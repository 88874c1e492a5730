/-
# Checking a text

A check applies every active rule to a source text.  Each match gives a finding.  The findings
come in the order of the rules and, for each rule, in the order of the text; that matches of
different rules overlap does not matter.
-/
import Deprecation.Finding
import Deprecation.Store
import Deprecation.Text.LineIndex

namespace Deprecation

open Text (LineIndex)

/-- What became of a rule's reference to an entry. -/
def Correction.ofEntry : Option Entry → Correction
  | some e => resolved e.title
  | none => unresolved

namespace Finding

/-- The finding for a match of a rule. -/
def ofSpan (entries : Keyed Entry) (text : List Char) (lines : LineIndex) (r : Rule)
    (m : Regex.Span) : Finding :=
  { ruleId := r.id
    severity := r.severity
    description := r.description
    fix := r.fix
    correctionId := r.correction
    correction := r.correction.map fun c => .ofEntry (entries.find? c)
    matched := String.ofList (m.text text)
    line := lines.lineOf (m.bytes text).1 }

end Finding

/-- The findings for one rule. -/
def ActiveRule.findings (a : ActiveRule) (entries : Keyed Entry) (text : List Char)
    (lines : LineIndex) : List Finding :=
  (a.regex.spans text).map (Finding.ofSpan entries text lines a.rule)

/-- What a store finds in a text. -/
def Store.check (s : Store) (text : String) : CheckResult :=
  let chars := text.toList
  let lines := LineIndex.ofChars chars
  .ofFindings (s.active.flatMap fun a => a.findings s.entries chars lines)

end Deprecation
