/-
# Slugs

The id of a mined rule contains its token in a form fit for ids: ASCII letters and digits in
small letters, with one hyphen for each run of other characters between them and none at the
ends.  The slug is written in one pass; a hyphen is written only when the letter after it is
reached.
-/
import Deprecation.Text.Word

namespace Deprecation.RuleId

open Text

/-- The slug of what follows a first letter; `gap` says whether other characters have been
passed since the last one. -/
def slugRest (gap : Bool) : List Char → List Char
  | [] => []
  | c :: s =>
    if isAsciiAlphanumeric c then
      if gap then '-' :: c.toLower :: slugRest false s else c.toLower :: slugRest false s
    else slugRest true s

/-- The slug of a list of characters. -/
def slugChars (s : List Char) : List Char :=
  slugRest false (s.dropWhile fun c => !isAsciiAlphanumeric c)

/-- The slug of a token. -/
def slug (token : String) : String :=
  String.ofList (slugChars token.toList)

@[simp] theorem slugRest_nil (gap : Bool) : slugRest gap [] = [] := rfl

theorem slugRest_cons_of_letter {c : Char} (h : isAsciiAlphanumeric c = true)
    (gap : Bool) (s : List Char) :
    slugRest gap (c :: s) = (if gap then ['-'] else []) ++ c.toLower :: slugRest false s := by
  cases gap <;> simp [slugRest, h]

theorem slugRest_cons_of_other {c : Char} (h : isAsciiAlphanumeric c = false)
    (gap : Bool) (s : List Char) : slugRest gap (c :: s) = slugRest true s := by
  simp [slugRest, h]

end Deprecation.RuleId
