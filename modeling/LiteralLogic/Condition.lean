/-!
# Conditions over quoted literals

A condition combines literals by AND, OR and NOT.  A literal is a text together
with the choice whether letter case counts; what makes a literal true is left to
a truth assignment, and `Condition.holds` extends one to whole conditions.

Conditions read from text group chains of one operator to the left and may be as
deep as they are long.  The functions on them therefore recurse on right operands
and continue with the left one, carrying what they collect.
-/

namespace LiteralLogic

/-- A quoted literal: a text, and whether letter case is ignored. -/
structure Literal where
  text : String
  caseInsensitive : Bool
deriving DecidableEq, Hashable, Inhabited

/-- A boolean condition over literals. -/
inductive Condition where
  | and (left right : Condition)
  | or (left right : Condition)
  | not (operand : Condition)
  | leaf (literal : Literal)
deriving DecidableEq, Inhabited

/-- The operators that join or negate conditions. -/
inductive Operator where
  | and
  | or
  | not
deriving DecidableEq

/-- The capital letters that an operator is written with. -/
def Operator.letters : Operator → List Char
  | .and => ['A', 'N', 'D']
  | .or => ['O', 'R']
  | .not => ['N', 'O', 'T']

/-- The word that an operator is written with. -/
def Operator.word (operator : Operator) : String :=
  String.ofList operator.letters

namespace Condition

/-- The truth of a condition when each literal is true or false by `truth`. -/
def holds (truth : Literal → Bool) : Condition → Bool
  | .and left right => left.holds truth && right.holds truth
  | .or left right => left.holds truth || right.holds truth
  | .not operand => !operand.holds truth
  | .leaf literal => truth literal

/-- The number of operators and literals in a condition. -/
def size : Condition → Nat
  | .and left right => left.size + right.size + 1
  | .or left right => left.size + right.size + 1
  | .not operand => operand.size + 1
  | .leaf _ => 1

/-- The literals of a condition from left to right, put before `tail`. -/
def literalsOnto : Condition → List Literal → List Literal
  | .and left right, tail => left.literalsOnto (right.literalsOnto tail)
  | .or left right, tail => left.literalsOnto (right.literalsOnto tail)
  | .not operand, tail => operand.literalsOnto tail
  | .leaf literal, tail => literal :: tail

/-- The literals of a condition from left to right, as often as they occur. -/
def literals (condition : Condition) : List Literal :=
  condition.literalsOnto []

theorem literalsOnto_eq (condition : Condition) (tail : List Literal) :
    condition.literalsOnto tail = condition.literals ++ tail := by
  induction condition generalizing tail with
  | and left right ihl ihr | or left right ihl ihr =>
    simp only [literals, literalsOnto]
    rw [ihl, ihr, ihl (right.literalsOnto []), ihr []]
    simp
  | not operand ih => simpa [literals, literalsOnto] using ih tail
  | leaf literal => rfl

@[simp]
theorem literals_and (left right : Condition) :
    (Condition.and left right).literals = left.literals ++ right.literals :=
  literalsOnto_eq left right.literals

@[simp]
theorem literals_or (left right : Condition) :
    (Condition.or left right).literals = left.literals ++ right.literals :=
  literalsOnto_eq left right.literals

@[simp]
theorem literals_not (operand : Condition) :
    (Condition.not operand).literals = operand.literals := rfl

@[simp]
theorem literals_leaf (literal : Literal) :
    (Condition.leaf literal).literals = [literal] := rfl

/-- A condition depends on the truth of its own literals only. -/
theorem holds_congr {condition : Condition} {truth truth' : Literal → Bool}
    (agree : ∀ literal ∈ condition.literals, truth literal = truth' literal) :
    condition.holds truth = condition.holds truth' := by
  induction condition with
  | and left right ihl ihr | or left right ihl ihr =>
    simp only [literals_and, literals_or, List.mem_append] at agree
    simp only [holds]
    rw [ihl fun literal h => agree literal (.inl h), ihr fun literal h => agree literal (.inr h)]
  | not operand ih => simp only [holds, ih agree]
  | leaf literal => exact agree literal (by simp)

end Condition

end LiteralLogic
