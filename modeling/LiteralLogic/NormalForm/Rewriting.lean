import LiteralLogic.NormalForm

/-!
# Rewriting conditions

The rules by which a condition is brought to its normal form one step at a time:
negations go down to the literals, and AND is distributed over OR.  AND is distributed
over an OR on its right only when the left operand has a single term, which keeps
the terms in their order.

Conditions that differ only in the order and in the grouping of the operands of AND
and OR are rearrangements of each other.  Neither changes the truth of a condition.
-/

namespace LiteralLogic

/-- Whether a condition is a disjunction. -/
def Condition.isDisjunction : Condition → Bool
  | .or _ _ => true
  | _ => false

/-- One rule applied to the whole of a condition. -/
inductive Rewrites : Condition → Condition → Prop
  | notAnd (a b : Condition) : Rewrites (.not (.and a b)) (.or (.not a) (.not b))
  | notOr (a b : Condition) : Rewrites (.not (.or a b)) (.and (.not a) (.not b))
  | notNot (a : Condition) : Rewrites (.not (.not a)) a
  | orAnd (x y b : Condition) : Rewrites (.and (.or x y) b) (.or (.and x b) (.and y b))
  | andOr {a : Condition} (x y : Condition) :
    a.normalize.isDisjunction = false →
    Rewrites (.and a (.or x y)) (.or (.and a x) (.and a y))

/-- One rule applied to a part of a condition.  The part stands under an even number
of negations if `positive`, and else under an odd number. -/
inductive RewritesBelow : Bool → Condition → Condition → Prop
  | here {a b : Condition} : Rewrites a b → RewritesBelow true a b
  | not {positive : Bool} {a b : Condition} :
    RewritesBelow positive a b → RewritesBelow (!positive) (.not a) (.not b)
  | andLeft {positive : Bool} {a b : Condition} (right : Condition) :
    RewritesBelow positive a b → RewritesBelow positive (.and a right) (.and b right)
  | andRight {positive : Bool} {a b : Condition} (left : Condition) :
    RewritesBelow positive a b → RewritesBelow positive (.and left a) (.and left b)
  | orLeft {positive : Bool} {a b : Condition} (right : Condition) :
    RewritesBelow positive a b → RewritesBelow positive (.or a right) (.or b right)
  | orRight {positive : Bool} {a b : Condition} (left : Condition) :
    RewritesBelow positive a b → RewritesBelow positive (.or left a) (.or left b)

/-- Conditions that differ in the order and the grouping of operands. -/
inductive Rearranged : Condition → Condition → Prop
  | refl (a : Condition) : Rearranged a a
  | symm {a b : Condition} : Rearranged a b → Rearranged b a
  | trans {a b c : Condition} : Rearranged a b → Rearranged b c → Rearranged a c
  | swapAnd (a b : Condition) : Rearranged (.and a b) (.and b a)
  | swapOr (a b : Condition) : Rearranged (.or a b) (.or b a)
  | groupAnd (a b c : Condition) : Rearranged (.and (.and a b) c) (.and a (.and b c))
  | groupOr (a b c : Condition) : Rearranged (.or (.or a b) c) (.or a (.or b c))
  | not {a b : Condition} : Rearranged a b → Rearranged (.not a) (.not b)
  | and {a b c d : Condition} : Rearranged a b → Rearranged c d → Rearranged (.and a c) (.and b d)
  | or {a b c d : Condition} : Rearranged a b → Rearranged c d → Rearranged (.or a c) (.or b d)

namespace Condition

/-- Whether AND and OR are grouped to the left: none of them has an operator of its own
kind on its right. -/
def isLeftGrouped : Condition → Bool
  | .leaf _ => true
  | .not operand => operand.isLeftGrouped
  | .and left right =>
    left.isLeftGrouped && right.isLeftGrouped &&
      match right with
      | .and _ _ => false
      | _ => true
  | .or left right => left.isLeftGrouped && right.isLeftGrouped && !right.isDisjunction

end Condition

theorem Rewrites.holds_eq {a b : Condition} (h : Rewrites a b) (truth : Literal → Bool) :
    a.holds truth = b.holds truth := by
  cases h <;> simp [Condition.holds, Bool.and_or_distrib_left, Bool.and_or_distrib_right]

theorem RewritesBelow.holds_eq {positive : Bool} {a b : Condition}
    (h : RewritesBelow positive a b) (truth : Literal → Bool) :
    a.holds truth = b.holds truth := by
  induction h with
  | here step => exact step.holds_eq truth
  | _ => simp only [Condition.holds, *]

theorem Rearranged.holds_eq {a b : Condition} (h : Rearranged a b) (truth : Literal → Bool) :
    a.holds truth = b.holds truth := by
  induction h with
  | refl => rfl
  | symm _ ih => exact ih.symm
  | trans _ _ ih ih' => exact ih.trans ih'
  | swapAnd => exact Bool.and_comm _ _
  | swapOr => exact Bool.or_comm _ _
  | groupAnd => exact Bool.and_assoc _ _ _
  | groupOr => exact Bool.or_assoc _ _ _
  | not _ ih => simp only [Condition.holds, ih]
  | and _ _ ih ih' | or _ _ ih ih' => simp only [Condition.holds, ih, ih']

end LiteralLogic
