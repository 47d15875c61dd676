import LiteralLogic.Token

/-!
# Reading conditions

NOT binds tighter than AND, and AND tighter than OR; parentheses group.  Chains
of one operator group to the left, and NOT takes exactly one operand, so that a
negation of a negation needs parentheses.

The tokens are read once, from left to right.  At each level of parentheses the
reader either waits for an operand (`Gap`) or has just completed one (`Partial`);
the levels around the current group are kept on a stack.  A parenthesis without
a partner is reported when it is reached, before anything behind it.
-/

namespace LiteralLogic

/-- A level of a condition that has just been completed by an operand: the
disjuncts closed by an OR, and the conjuncts of the current one. -/
structure Partial where
  disjuncts : Option Condition
  conjuncts : Condition

/-- A level of a condition that waits for an operand: what has been closed by an
OR and by an AND, and the operator that the operand is for, with its position. -/
structure Gap where
  disjuncts : Option Condition := none
  conjuncts : Option Condition := none
  pending : Option (Operator × Nat) := none

/-- A group that is being read: the level around it, and the position of its
opening parenthesis. -/
structure Group where
  outer : Gap
  offset : Nat

namespace Partial

/-- The condition that a level amounts to if nothing follows. -/
def condition (level : Partial) : Condition :=
  match level.disjuncts with
  | none => level.conjuncts
  | some disjuncts => .or disjuncts level.conjuncts

/-- The level after AND at `offset`. -/
def andGap (level : Partial) (offset : Nat) : Gap :=
  { disjuncts := level.disjuncts
    conjuncts := some level.conjuncts
    pending := some (.and, offset) }

/-- The level after OR at `offset`. -/
def orGap (level : Partial) (offset : Nat) : Gap :=
  { disjuncts := some level.condition, pending := some (.or, offset) }

end Partial

namespace Gap

/-- The level after NOT at `offset`; none where a NOT already waits for its
operand. -/
def notGap (gap : Gap) (offset : Nat) : Option Gap :=
  match gap.pending with
  | some (.not, _) => none
  | _ => some { gap with pending := some (.not, offset) }

/-- The level with the missing operand put in. -/
def fill (gap : Gap) (operand : Condition) : Partial :=
  let signed := match gap.pending with
    | some (.not, _) => .not operand
    | _ => operand
  { disjuncts := gap.disjuncts
    conjuncts := match gap.conjuncts with
      | none => signed
      | some conjuncts => .and conjuncts signed }

/-- What is wrong if the operand never comes: the waiting operator lacks it, or
there is no expression at all at `offset`. -/
def unfilled (gap : Gap) (fault : SyntaxFault) (offset : Nat) : SyntaxError :=
  match gap.pending with
  | some (operator, place) => ⟨place, .missingOperand operator⟩
  | none => ⟨offset, fault⟩

end Gap

/-- Whether `depth + 1` parentheses that are open before the tokens are all
closed by them. -/
def closes (depth : Nat) : List Token → Bool
  | [] => false
  | token :: rest =>
    match token.kind, depth with
    | .openParen, _ => closes (depth + 1) rest
    | .closeParen, 0 => true
    | .closeParen, depth + 1 => closes depth rest
    | _, _ => closes depth rest

mutual

/-- Reads on where an operand is missing. -/
def readOperand (gap : Gap) (groups : List Group) : List Token → Except SyntaxError Condition
  | [] =>
    match groups with
    | [] => .error (gap.unfilled .malformed 1)
    | group :: _ => .error ⟨group.offset, .unmatchedParen⟩
  | token :: rest =>
    match token.kind with
    | .literal literal => readOperator (gap.fill (.leaf literal)) groups rest
    | .openParen =>
      if closes 0 rest then readOperand {} (⟨gap, token.offset⟩ :: groups) rest
      else .error ⟨token.offset, .unmatchedParen⟩
    | .closeParen =>
      match groups with
      | [] => .error ⟨token.offset, .unmatchedParen⟩
      | group :: _ => .error (gap.unfilled .emptyGroup group.offset)
    | .operator .not =>
      match gap.notGap token.offset with
      | some gap => readOperand gap groups rest
      | none => .error (gap.unfilled .malformed token.offset)
    | .operator operator => .error ⟨token.offset, .missingOperand operator⟩

/-- Reads on where an operand has just been completed. -/
def readOperator (level : Partial) (groups : List Group) :
    List Token → Except SyntaxError Condition
  | [] =>
    match groups with
    | [] => .ok level.condition
    | group :: _ => .error ⟨group.offset, .unmatchedParen⟩
  | token :: rest =>
    match token.kind with
    | .operator .and => readOperand (level.andGap token.offset) groups rest
    | .operator .or => readOperand (level.orGap token.offset) groups rest
    | .closeParen =>
      match groups with
      | [] => .error ⟨token.offset, .unmatchedParen⟩
      | group :: groups => readOperator (group.outer.fill level.condition) groups rest
    | _ => .error ⟨token.offset, .malformed⟩

end

namespace Condition

/-- The condition that a row of tokens spells. -/
def ofTokens (tokens : List Token) : Except SyntaxError Condition :=
  readOperand {} [] tokens

/-- The condition that a text spells, or why it spells none. -/
def parse (text : String) : Except SyntaxError Condition :=
  match Token.scan text with
  | .ok tokens => ofTokens tokens
  | .error error => .error error

end Condition

end LiteralLogic
