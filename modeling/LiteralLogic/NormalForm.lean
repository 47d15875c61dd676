import LiteralLogic.NormalForm.Expansion

/-!
# Disjunctive normal form

The normal form of a condition is a disjunction of conjunctions of literals and
negated literals, both grouped to the left and in the order of the operands.
-/

namespace LiteralLogic

/-- The conditions joined by `join` and grouped to the left; none if there are no
conditions. -/
def Condition.chain (join : Condition → Condition → Condition) : List Condition → Option Condition
  | [] => none
  | first :: rest => some (rest.foldl join first)

/-- The conjunction of a term's atoms; none for the empty term. -/
def Term.condition (term : Term) : Option Condition :=
  Condition.chain .and (term.map Atom.condition)

/-- The disjunction of the terms that have atoms; none if there are no such terms. -/
def Condition.ofTerms (terms : List Term) : Option Condition :=
  Condition.chain .or (terms.filterMap Term.condition)

/-- The disjunctive normal form of a condition. -/
def Condition.normalize (condition : Condition) : Condition :=
  (Condition.ofTerms condition.expand.terms).getD condition

/-- Whether a condition below an AND or not, as `inAnd` says, has negations only
directly above literals and no OR below an AND. -/
def Condition.isNormalBelow (inAnd : Bool) : Condition → Bool
  | .leaf _ => true
  | .not operand => operand.isLeaf
  | .and left right => right.isNormalBelow true && left.isNormalBelow true
  | .or left right => !inAnd && right.isNormalBelow false && left.isNormalBelow false

/-- Whether a condition has negations only directly above literals and no OR below
an AND. -/
def Condition.isNormalized (condition : Condition) : Bool :=
  condition.isNormalBelow false

end LiteralLogic
