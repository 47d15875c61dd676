import LiteralLogic.Proofs.NormalForm.FixedPoints

/-!
# Grouping chains to the left

`Condition.groupLeft` regroups the chains of AND and OR in a condition and changes nothing
else.  Joining is associative for the terms of a condition and for the check for normal forms,
so the operands of a chain may be joined one by one (`Condition.value_attach`): regrouping does
not change the normal form of a condition, and a condition that is normalized already is only
regrouped by normalizing it (`Condition.normalize_eq_groupLeft`).
-/

namespace LiteralLogic

namespace Condition

open Operator (and_ne_not or_ne_not)

/-- `left` and the operands that an operator has at the top of `right`, joined by the operator
one behind the other. -/
def attach (operator : Operator) (left right : Condition) : Condition :=
  (right.operands operator).foldl (join operator) left

/-- The condition with all chains of AND and all chains of OR grouped to the left. -/
def groupLeft : Condition → Condition
  | .and left right => attach .and left.groupLeft right.groupLeft
  | .or left right => attach .or left.groupLeft right.groupLeft
  | .not operand => .not operand.groupLeft
  | .leaf literal => .leaf literal

/-! ## What an attached chain is -/

section

variable {operator : Operator}

theorem attach_of_ne {right : Condition} (other : right.operator? ≠ some operator)
    (left : Condition) : attach operator left right = join operator left right := by
  rw [attach, operands_of_ne other, List.foldl_cons, List.foldl_nil]

variable (binary : operator ≠ .not)

include binary

theorem attach_join (left a b : Condition) :
    attach operator left (join operator a b) = attach operator (attach operator left a) b := by
  rw [attach, operands_join binary, List.foldl_append, attach, attach]

/-- Whatever is attached by an operator, the operator joins the whole. -/
theorem operator?_attach (left right : Condition) :
    (attach operator left right).operator? = some operator := by
  induction right using join_induction binary generalizing left with
  | single right other => rw [attach_of_ne other, operator?_join]
  | joined a b _ ihb => rw [attach_join binary, ihb]

/-- For what is associative, attaching a chain is joining it as a whole. -/
theorem value_attach {β : Type} (value : Condition → β) (op : β → β → β)
    (joins : ∀ left right, value (join operator left right) = op (value left) (value right))
    (assoc : ∀ a b c, op (op a b) c = op a (op b c)) (left right : Condition) :
    value (attach operator left right) = value (join operator left right) := by
  induction right using join_induction binary generalizing left with
  | single right other => rw [attach_of_ne other]
  | joined a b iha ihb => rw [attach_join binary, ihb, joins, iha, joins, assoc, joins, joins]

theorem terms_attach (left right : Condition) (positive : Bool) :
    (attach operator left right).terms positive = (join operator left right).terms positive := by
  cases operator with
  | and =>
    exact value_attach binary (terms positive) (Term.join positive)
      (fun left right => terms_and left right positive) (Term.join_assoc positive) left right
  | or =>
    exact value_attach binary (terms positive) (Term.join (!positive))
      (fun left right => terms_or left right positive) (Term.join_assoc (!positive)) left right
  | not => exact (binary rfl).elim

theorem isNormalBelow_attach (left right : Condition) (inAnd : Bool) :
    (attach operator left right).isNormalBelow inAnd =
      (join operator left right).isNormalBelow inAnd := by
  -- the conjuncts stand below an AND even where the whole does not, so the value that is
  -- associative is the check with both answers
  suffices both : (fun inAnd => (attach operator left right).isNormalBelow inAnd) =
      fun inAnd => (join operator left right).isNormalBelow inAnd from congrFun both inAnd
  cases operator with
  | and =>
    refine value_attach binary (fun condition inAnd => condition.isNormalBelow inAnd)
      (fun left right _ => right true && left true) (fun _ _ => rfl) ?_ left right
    intro a b c
    simp only [Bool.and_assoc]
  | or =>
    refine value_attach binary (fun condition inAnd => condition.isNormalBelow inAnd)
      (fun left right inAnd => !inAnd && right false && left false) (fun _ _ => rfl) ?_ left right
    intro a b c
    simp only [Bool.and_assoc, Bool.not_false, Bool.true_and]
  | not => exact (binary rfl).elim

/-- A chain that is attached to a condition grouped to the left is grouped to the left. -/
theorem isLeftGrouped_attach {left right : Condition} (groupedLeft : left.isLeftGrouped = true)
    (groupedRight : right.isLeftGrouped = true) :
    (attach operator left right).isLeftGrouped = true := by
  induction right using join_induction binary generalizing left with
  | single right other =>
    rw [attach_of_ne other]
    exact (isLeftGrouped_join binary).mpr ⟨other, groupedLeft, groupedRight⟩
  | joined a b iha _ =>
    rcases (isLeftGrouped_join binary).mp groupedRight with ⟨single, groupedA, groupedB⟩
    rw [attach_join binary, attach_of_ne single]
    exact (isLeftGrouped_join binary).mpr ⟨single, iha groupedLeft groupedA, groupedB⟩

end

/-! ## What regrouping keeps -/

theorem isLeaf_eq (condition : Condition) : condition.isLeaf = condition.operator?.isNone := by
  cases condition <;> rfl

theorem isDisjunction_eq (condition : Condition) :
    condition.isDisjunction = decide (condition.operator? = some .or) := by
  cases condition <;> rfl

/-- Regrouping keeps the outermost operator. -/
theorem operator?_groupLeft (condition : Condition) :
    condition.groupLeft.operator? = condition.operator? := by
  cases condition with
  | and left right => exact operator?_attach and_ne_not _ _
  | or left right => exact operator?_attach or_ne_not _ _
  | not | leaf => rfl

/-- Regrouping keeps the terms and their order. -/
theorem terms_groupLeft (condition : Condition) (positive : Bool) :
    condition.groupLeft.terms positive = condition.terms positive := by
  induction condition generalizing positive with
  | and left right ihl ihr =>
    rw [groupLeft, terms_attach and_ne_not, join, terms_and, ihl, ihr, terms_and]
  | or left right ihl ihr =>
    rw [groupLeft, terms_attach or_ne_not, join, terms_or, ihl, ihr, terms_or]
  | not operand ih => exact ih (!positive)
  | leaf literal => rfl

theorem isNormalBelow_groupLeft (condition : Condition) (inAnd : Bool) :
    condition.groupLeft.isNormalBelow inAnd = condition.isNormalBelow inAnd := by
  induction condition generalizing inAnd with
  | and left right ihl ihr =>
    rw [groupLeft, isNormalBelow_attach and_ne_not, join, isNormalBelow, isNormalBelow, ihl, ihr]
  | or left right ihl ihr =>
    rw [groupLeft, isNormalBelow_attach or_ne_not, join, isNormalBelow, isNormalBelow, ihl, ihr]
  | not operand =>
    rw [groupLeft, isNormalBelow, isNormalBelow, isLeaf_eq, operator?_groupLeft, isLeaf_eq]
  | leaf literal => rfl

theorem isLeftGrouped_groupLeft (condition : Condition) :
    condition.groupLeft.isLeftGrouped = true := by
  induction condition with
  | and left right ihl ihr => exact isLeftGrouped_attach and_ne_not ihl ihr
  | or left right ihl ihr => exact isLeftGrouped_attach or_ne_not ihl ihr
  | not operand ih => exact ih
  | leaf literal => rfl

/-! ## Normal forms -/

/-- The normal form of a condition depends on its terms only. -/
theorem normalize_congr {a b : Condition} (same : a.terms true = b.terms true) :
    a.normalize = b.normalize := by
  have built := a.ofTerms_eq_some_normalize
  rw [same, ofTerms_eq_some_normalize] at built
  exact (Option.some.inj built).symm

/-- The normal form of a normalized condition is the condition grouped to the left. -/
theorem normalize_eq_groupLeft {condition : Condition} (normal : condition.isNormalized = true) :
    condition.normalize = condition.groupLeft := by
  have normalGrouped : condition.groupLeft.isNormalized = true := by
    rw [isNormalized, isNormalBelow_groupLeft]
    exact normal
  have fixed := (normalize_eq_self_iff _).mpr ⟨normalGrouped, condition.isLeftGrouped_groupLeft⟩
  rw [normalize_congr (condition.terms_groupLeft true)] at fixed
  exact fixed

end Condition

end LiteralLogic
