import LiteralLogic.Condition
import LiteralLogic.Text.Quoted

/-!
# The text of a condition

A condition is written so that reading the text gives the same condition again:
every AND and OR stands in parentheses, and so does a negation under a negation.
Which characters of a literal stand for themselves is a parameter, because the
text can be read back whatever the choice.

`Condition.spellBetween_eq` ties the writing that continues with the left operand
to `Condition.spelling`, the text by recursion on the condition.
-/

namespace LiteralLogic

/-- A literal in quotation marks, followed by `i` if letter case is ignored. -/
def Literal.spelling (verbatim : Char → Bool) (literal : Literal) : List Char :=
  '"' :: literal.text.toList.flatMap (Text.quoted verbatim '"') ++
    (if literal.caseInsensitive then ['"', 'i'] else ['"'])

namespace Condition

/-- Whether a condition is a negation. -/
def isNegation : Condition → Bool
  | .not _ => true
  | _ => false

/-- The text of a condition, by recursion on the condition. -/
def spelling (verbatim : Char → Bool) : Condition → List Char
  | .and left right =>
    '(' :: left.spelling verbatim ++ [' ', 'A', 'N', 'D', ' '] ++ right.spelling verbatim ++ [')']
  | .or left right =>
    '(' :: left.spelling verbatim ++ [' ', 'O', 'R', ' '] ++ right.spelling verbatim ++ [')']
  | .not operand =>
    if operand.isNegation then
      ['N', 'O', 'T', ' ', '('] ++ operand.spelling verbatim ++ [')']
    else ['N', 'O', 'T', ' '] ++ operand.spelling verbatim
  | .leaf literal => literal.spelling verbatim

/-- The text of a condition between the characters `before`, latest first, and
the characters `after`. -/
def spellBetween (verbatim : Char → Bool) (before : List Char) :
    Condition → List Char → List Char
  | .and left right, after =>
    left.spellBetween verbatim ('(' :: before)
      ([' ', 'A', 'N', 'D', ' '] ++ right.spellBetween verbatim [] (')' :: after))
  | .or left right, after =>
    left.spellBetween verbatim ('(' :: before)
      ([' ', 'O', 'R', ' '] ++ right.spellBetween verbatim [] (')' :: after))
  | .not operand, after =>
    if operand.isNegation then
      operand.spellBetween verbatim (['(', ' ', 'T', 'O', 'N'] ++ before) (')' :: after)
    else operand.spellBetween verbatim ([' ', 'T', 'O', 'N'] ++ before) after
  | .leaf literal, after => before.reverseAux (literal.spelling verbatim ++ after)

theorem spellBetween_eq (verbatim : Char → Bool) (condition : Condition)
    (before after : List Char) :
    condition.spellBetween verbatim before after =
      before.reverse ++ condition.spelling verbatim ++ after := by
  induction condition generalizing before after with
  | and left right ihl ihr | or left right ihl ihr => simp [spellBetween, spelling, ihl, ihr]
  | not operand ih =>
    by_cases h : operand.isNegation <;> simp [spellBetween, spelling, h, ih]
  | leaf literal => simp [spellBetween, spelling, List.reverseAux_eq]

/-- The text of a condition. -/
def render (condition : Condition) : String :=
  String.ofList (condition.spellBetween Text.isVerbatim [] [])

theorem toList_render (condition : Condition) :
    condition.render.toList = condition.spelling Text.isVerbatim := by
  simp [render, spellBetween_eq]

end Condition

end LiteralLogic
