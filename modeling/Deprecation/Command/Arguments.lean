/-
# Arguments of a command line

A command line is a list of words.  A word that begins with two dashes names an option, a
word that begins with one dash names one or more by their letters, and any other word stands
for itself.  After the word `--` all words stand for themselves.

An option that takes a value finds it behind an equals sign, behind its letter, or in the next
word; the next word must then not look like an option.  An option is given at most once.
-/

namespace Deprecation

/-- An option that a command knows. -/
structure Switch where
  name : String
  letter : Option Char
  takesValue : Bool

/-- What was given on a command line. -/
structure Arguments where
  /-- The options with their values, last first. -/
  options : List (String × Option String) := []
  /-- The words that stand for themselves, in order. -/
  words : List String := []

namespace Arguments

/-- Whether an option was given. -/
def given (a : Arguments) (name : String) : Bool := a.options.any (·.1 == name)

/-- The value of an option, if it was given. -/
def value (a : Arguments) (name : String) : Option String := (a.options.lookup name).join

/-- Notes an option, unless it was given before. -/
def note (a : Arguments) (name : String) (value : Option String) : Option Arguments :=
  if a.given name then none else some { a with options := (name, value) :: a.options }

/-- Whether a word looks like an option. -/
def looksLikeOption (w : String) : Bool :=
  match w.toList with
  | '-' :: _ :: _ => true
  | _ => false

/-- Reads the letters of a word.  Gives the name of the option whose value is in the next
word, if there is one. -/
def letters (known : List Switch) (a : Arguments) :
    List Char → Option (Arguments × Option String)
  | [] => some (a, none)
  | c :: rest => do
    let s ← known.find? (·.letter == some c)
    if !s.takesValue then letters known (← a.note s.name none) rest
    else match rest with
      | [] => some (a, some s.name)
      | '=' :: value => (a.note s.name (some (String.ofList value))).map (·, none)
      | value => (a.note s.name (some (String.ofList value))).map (·, none)

/-- Reads a name behind two dashes, with the value behind an equals sign.  Gives the name of
the option whose value is in the next word, if there is one. -/
def named (known : List Switch) (a : Arguments) (w : List Char) :
    Option (Arguments × Option String) := do
  let s ← known.find? (·.name == String.ofList (w.takeWhile (· ≠ '=')))
  match w.dropWhile (· ≠ '='), s.takesValue with
  | [], true => some (a, some s.name)
  | [], false => (a.note s.name none).map (·, none)
  | _ :: value, true => (a.note s.name (some (String.ofList value))).map (·, none)
  | _ :: _, false => none

/-- Reads a word that looks like an option. -/
def option (known : List Switch) (a : Arguments) (w : String) :
    Option (Arguments × Option String) :=
  match w.toList with
  | '-' :: '-' :: name => named known a name
  | cs => letters known a (cs.drop 1)

/-- Reads words.  What stands for itself is kept in order; or, if only leading options are
wanted, reading ends with the first such word. -/
def scan (known : List Switch) (onlyLeading : Bool) (a : Arguments) :
    List String → Option Arguments
  | [] => some a
  | w :: rest =>
    if w = "--" ∧ !onlyLeading then some { a with words := a.words ++ rest }
    else if looksLikeOption w then
      match option known a w with
      | none => none
      | some (a, none) => scan known onlyLeading a rest
      | some (a, some name) =>
        match rest with
        | [] => none
        | value :: rest =>
          if looksLikeOption value then none
          else match a.note name (some value) with
            | some a => scan known onlyLeading a rest
            | none => none
    else if onlyLeading then some { a with words := w :: rest }
    else scan known onlyLeading { a with words := a.words ++ [w] } rest

end Arguments

end Deprecation
