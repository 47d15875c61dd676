import LiteralLogic.Token

/-!
# The grammar of conditions

Which rows of tokens spell which conditions.  There are four levels:

* a primary is a literal, or a disjunction in parentheses;
* a unary is a primary, or NOT and a primary;
* a conjunction is a unary, or a conjunction, AND and a unary;
* a disjunction is a conjunction, or a disjunction, OR and a conjunction.

The operand on the left of AND and OR is of the same level as the whole, so chains of
one operator group to the left.
-/

namespace LiteralLogic

/-- A level of the grammar. -/
inductive GrammarLevel where
  | primary
  | unary
  | conjunction
  | disjunction
deriving DecidableEq

/-- A row of tokens spells a condition at a level of the grammar. -/
inductive Derives : GrammarLevel → List TokenKind → Condition → Prop
  | literal (literal : Literal) : Derives .primary [.literal literal] (.leaf literal)
  | group {row : List TokenKind} {condition : Condition} :
    Derives .disjunction row condition →
    Derives .primary (.openParen :: row ++ [.closeParen]) condition
  | primary {row : List TokenKind} {condition : Condition} :
    Derives .primary row condition → Derives .unary row condition
  | not {row : List TokenKind} {operand : Condition} :
    Derives .primary row operand → Derives .unary (.operator .not :: row) (.not operand)
  | unary {row : List TokenKind} {condition : Condition} :
    Derives .unary row condition → Derives .conjunction row condition
  | and {leftRow rightRow : List TokenKind} {left right : Condition} :
    Derives .conjunction leftRow left → Derives .unary rightRow right →
    Derives .conjunction (leftRow ++ .operator .and :: rightRow) (.and left right)
  | conjunction {row : List TokenKind} {condition : Condition} :
    Derives .conjunction row condition → Derives .disjunction row condition
  | or {leftRow rightRow : List TokenKind} {left right : Condition} :
    Derives .disjunction leftRow left → Derives .conjunction rightRow right →
    Derives .disjunction (leftRow ++ .operator .or :: rightRow) (.or left right)

/-- Every primary is a disjunction. -/
theorem Derives.disjunction_of_primary {row : List TokenKind} {condition : Condition}
    (h : Derives .primary row condition) : Derives .disjunction row condition :=
  .conjunction (.unary (.primary h))

end LiteralLogic
