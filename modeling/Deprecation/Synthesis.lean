/-
# Making rules from records

A deprecation record becomes a draft rule: its token gives the pattern, its category the
severity, and all of it the description.  The rule's id is built from the token's slug and the
release, and comes from the registry of ids.

A record without a token, a release or a letter or digit in its token becomes no rule, nor
does one for which every id is taken.
-/
import Deprecation.RuleId.Registry
import Deprecation.RuleId.Slug
import Deprecation.TokenPattern

namespace Deprecation

open Text

/-- Why a record becomes no rule. -/
inductive SynthesisError where
  | emptyToken (release : String)
  | missingRelease (token : String)
  | invalidPattern (token pattern : String)
  | emptySlug (token : String)
  | idCollision (token base : String)
deriving DecidableEq, Repr, Inhabited

namespace SynthesisError

/-- The token of the record. -/
def token : SynthesisError → String
  | emptyToken _ => ""
  | missingRelease token | invalidPattern token _ | emptySlug token | idCollision token _ => token

/-- What is said of the record. -/
def message : SynthesisError → String
  | emptyToken release => "Deprecated token is empty (release " ++ release ++ ")"
  | missingRelease token => "Record for '" ++ token ++ "' has no source release"
  | invalidPattern token _ =>
    "Pattern for '" ++ token ++ "' does not compile: it is no regular expression"
  | emptySlug token =>
    "Token '" ++ token ++ "' has no alphanumeric characters to build an id from"
  | idCollision token base =>
    "No free id for '" ++ token ++ "': '" ++ base ++ "' and all its suffixes are taken"

end SynthesisError

/-- How rules are made. -/
structure Synthesizer where
  /-- The prefixes of legacy types. -/
  legacyPrefixes : List String
  /-- The largest suffix of an id. -/
  maxSuffix : Nat
deriving DecidableEq, Repr, Inhabited

namespace Synthesizer

/-- A registry for the rules made here. -/
def registry (s : Synthesizer) : Registry := Registry.empty s.maxSuffix

/-- The description of a rule. -/
def describe (token : String) (replacement : Option String) (category : Category)
    (release : String) : String :=
  match category, replacement with
  | .renamed, some new =>
    "'" ++ token ++ "' has been renamed to '" ++ new ++ "' in release " ++ release ++ "."
  | .renamed, none => "'" ++ token ++ "' has been renamed in release " ++ release ++ "."
  | .removed, _ => "'" ++ token ++ "' was removed in release " ++ release ++ "."
  | .changed, some new =>
    "'" ++ token ++ "' is deprecated in favor of '" ++ new ++ "' as of release " ++ release
      ++ "."
  | .changed, none => "'" ++ token ++ "' is deprecated as of release " ++ release ++ "."

/-- The id that a token and a release lead to. -/
def baseId (token release : String) : String :=
  "auto-" ++ RuleId.slug token ++ "-" ++ release

/-- The replacement that a record names, unless it is blank. -/
def replacementOf (r : Record) : Option String :=
  match r.replacement with
  | none => none
  | some new => if (trimmed new).isEmpty then none else some (trimmed new)

/-- Makes a draft rule from a record; the registry notes its id. -/
def synthesize (s : Synthesizer) (g : Registry) (madeAt : Instant) (r : Record) :
    Except SynthesisError (MinedRule × Registry) :=
  let token := trimmed r.token
  let release := trimmed r.release
  let pattern := TokenPattern.pattern s.legacyPrefixes token
  if token.isEmpty then .error (.emptyToken release)
  else if release.isEmpty then .error (.missingRelease token)
  else if (Regex.compile pattern).isNone then .error (.invalidPattern token pattern)
  else if (RuleId.slug token).isEmpty then .error (.emptySlug token)
  else match g.claim (baseId token release) token r.category with
    | none => .error (.idCollision token (baseId token release))
    | some (id, g) =>
      let replacement := replacementOf r
      .ok ({ id, token, category := r.category, pattern
             description := describe token replacement r.category release
             severity := r.category.severity
             fix := replacement.map fun new => "Replace '" ++ token ++ "' with '" ++ new ++ "'"
             correction := none
             release, status := .draft, madeAt }, g)

end Synthesizer

end Deprecation
