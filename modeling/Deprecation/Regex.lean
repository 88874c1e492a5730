/-
# Patterns

The interface to regular expressions.  A pattern compiles unless it is malformed, names a
class that does not exist, needs to split characters, or would take too much memory.  A
compiled pattern finds all its matches in a text.
-/
import Deprecation.Regex.Ast.Parser
import Deprecation.Regex.Expr.OfAst
import Deprecation.Regex.Search
import Deprecation.Regex.Size

namespace Deprecation

/-- A compiled pattern. -/
structure Regex where
  program : Regex.Program
deriving Repr, Inhabited

namespace Regex

/-- The expression that a pattern means. -/
def exprOf (pattern : String) : Option Expr := do
  let ast ← Ast.parse pattern.toList
  let (e, _) ← ast.expr {}
  if e.fits then pure e else none

/-- Compiles a pattern. -/
def compile (pattern : String) : Option Regex :=
  (exprOf pattern).map fun e => ⟨Program.ofExpr e⟩

/-- All matches in a text, in characters, from left to right and without overlap. -/
def spans (r : Regex) (text : List Char) : List Span :=
  Search.findAll r.program none 0 true text

/-- The length of a text in UTF-8. -/
def byteLength (text : List Char) : Nat :=
  text.foldr (fun c n => c.utf8Size + n) 0

/-- The places of a match in bytes of UTF-8. -/
def Span.bytes (text : List Char) (m : Span) : Nat × Nat :=
  (byteLength (text.take m.start), byteLength (text.take m.stop))

/-- The text of a match. -/
def Span.text (text : List Char) (m : Span) : List Char :=
  (text.drop m.start).take (m.stop - m.start)

end Regex

end Deprecation
