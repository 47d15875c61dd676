import LiteralLogic.Condition
import LiteralLogic.Folding
import LiteralLogic.Text.Occurrence

/-!
# Inputs as haystacks

An input decides every literal.  A literal with case is true if its text is part of
the input; a literal without case is true if its folded text is part of the folded
input.
-/

namespace LiteralLogic

/-- An input, as it is and folded, together with the rules of folding.  It is
folded when a literal first asks for that. -/
structure Haystack where
  folding : Folding
  raw : List Char
  folded : Thunk (List Char)

/-- An input made ready for the search of literals. -/
def Haystack.ofText (folding : Folding) (input : String) : Haystack :=
  { folding, raw := input.toList, folded := folding.foldChars input.toList }

/-- The text that is searched for: as it is, or folded for a literal without case. -/
def Literal.pattern (folding : Folding) (literal : Literal) : String :=
  if literal.caseInsensitive then folding.fold literal.text else literal.text

/-- Whether a literal is true of an input. -/
def Haystack.contains (haystack : Haystack) (literal : Literal) : Bool :=
  Text.occursIn (literal.pattern haystack.folding).toList
    (if literal.caseInsensitive then haystack.folded.get else haystack.raw)

theorem Haystack.contains_iff {haystack : Haystack} {literal : Literal} :
    haystack.contains literal = true ↔
      (literal.pattern haystack.folding).toList <:+:
        (if literal.caseInsensitive then haystack.folded.get else haystack.raw) :=
  Text.occursIn_iff

end LiteralLogic
