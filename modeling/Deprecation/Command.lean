/-
# Commands

What an operator asks for on the command line: to check files, to ingest release notes, to
review a rule, to list rules, or to watch a directory for new releases.
-/
import Deprecation.Command.Arguments
import Deprecation.Rule

namespace Deprecation

/-- Which rules are listed. -/
inductive RuleFilter where
  | static
  | mined (status : Status)
deriving DecidableEq, Repr

/-- Where release notes come from. -/
inductive NotesForm where
  /-- The notes of one release. -/
  | release (version : String)
  /-- A changelog of many releases. -/
  | document
deriving DecidableEq, Repr

/-- What is asked for. -/
inductive Command where
  /-- Checks files and directories, and writes the report to files. -/
  | check (paths : List String) (json markdown : Option String)
  /-- Ingests release notes. -/
  | ingest (file : String) (form : NotesForm)
  /-- Reviews a rule. -/
  | review (id : String) (decision : Decision)
  /-- Lists rules. -/
  | rules (filter : Option RuleFilter) (asJson : Bool)
  /-- Watches a directory. -/
  | watch (directory : String) (interval : Option Nat)
deriving DecidableEq, Repr

/-- A command with what concerns all commands. -/
structure Invocation where
  /-- The file with the settings. -/
  config : Option String
  verbose : Bool
  command : Command
deriving DecidableEq, Repr

/-- What a command line asks for. -/
inductive CommandLine where
  | help
  | run (what : Invocation)
deriving DecidableEq, Repr

namespace Command

/-! ## The options of the commands -/

/-- The options that concern all commands. -/
def commonSwitches : List Switch :=
  [⟨"config", some 'c', true⟩, ⟨"verbose", some 'v', false⟩, ⟨"help", some 'h', false⟩]

/-- The options of a command. -/
def switchesOf (name : String) : Option (List Switch) :=
  if name = "check" then some [⟨"output", some 'o', true⟩, ⟨"markdown", some 'm', true⟩]
  else if name = "ingest" then
    some [⟨"release", some 'r', true⟩, ⟨"document", some 'd', false⟩]
  else if name = "review" then some []
  else if name = "rules" then some [⟨"status", some 's', true⟩, ⟨"json", none, false⟩]
  else if name = "watch" then some [⟨"interval", some 'i', true⟩]
  else none

/-! ## Values -/

/-- A path, which is not empty. -/
def pathOf (w : String) : Option String := if w = "" then none else some w

/-- The path that an option gives, if it is given. -/
def pathOption (a : Arguments) (name : String) : Option (Option String) :=
  match a.value name with
  | some w => (pathOf w).map some
  | none => some none

/-- A number of 64 bits, with a plus sign at most. -/
def numberOf (w : String) : Option Nat :=
  let digits := match w.toList with
    | '+' :: rest => rest
    | cs => cs
  let n := Nat.ofDigitChars 10 digits 0
  if digits ≠ [] ∧ digits.all Char.isDigit ∧ n < Nat.pow 2 64 then some n else none

/-- The rules that a word names. -/
def filterOf (w : String) : Option RuleFilter :=
  if w = "static" then some .static
  else (Status.all.find? (·.name == w)).map .mined

/-! ## Reading a command line -/

/-- The command with a name that arguments describe. -/
def ofArguments (name : String) (a : Arguments) : Option Command :=
  if name = "check" then do
    let paths ← a.words.mapM pathOf
    if paths = [] then none
    some (.check paths (← pathOption a "output") (← pathOption a "markdown"))
  else if name = "ingest" then do
    let [file] := a.words | none
    let file ← pathOf file
    match a.value "release", a.given "document" with
    | some version, false => some (.ingest file (.release version))
    | none, true => some (.ingest file .document)
    | _, _ => none
  else if name = "review" then do
    let [id, word] := a.words | none
    some (.review id (← Decision.ofWord word))
  else if name = "rules" then do
    if a.words ≠ [] then none
    match a.value "status" with
    | some w => some (.rules (some (← filterOf w)) (a.given "json"))
    | none => some (.rules none (a.given "json"))
  else if name = "watch" then do
    let [directory] := a.words | none
    let directory ← pathOf directory
    match a.value "interval" with
    | some w => some (.watch directory (some (← numberOf w)))
    | none => some (.watch directory none)
  else none

end Command

/-- Reads a command line.  An option that concerns all commands may stand before or after the
command's name; what stands after it counts. -/
def CommandLine.ofWords (words : List String) : Option CommandLine := do
  let before ← Arguments.scan Command.commonSwitches true {} words
  if before.given "help" ∨ before.words.head? = some "help" then some .help
  else
    let name :: rest := before.words | none
    let switches ← Command.switchesOf name
    let after ← Arguments.scan (Command.commonSwitches ++ switches) false {} rest
    if after.given "help" then some .help
    else
      let command ← Command.ofArguments name after
      let earlier ← Command.pathOption before "config"
      let later ← Command.pathOption after "config"
      some (.run
        { config := later <|> earlier
          verbose := before.given "verbose" || after.given "verbose"
          command })

end Deprecation
