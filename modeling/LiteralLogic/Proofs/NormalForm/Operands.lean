import LiteralLogic.Proofs.NormalForm.Shape

/-!
# Operands of chains

A chain of ANDs or of ORs has the same operands however it is grouped.  None of them is joined
by the operator of the chain, and each of them stands in it (`Condition.operand_spec`).

What is true of AND and of OR alike is stated for any operator that is not NOT, and
`Condition.join_induction` takes a condition to be a chain of one of them.
-/

namespace LiteralLogic

theorem Operator.and_ne_not : Operator.and ≠ .not := by decide

theorem Operator.or_ne_not : Operator.or ≠ .not := by decide

namespace Condition

/-- The operator that joins or negates the whole of a condition. -/
def operator? : Condition → Option Operator
  | .and _ _ => some .and
  | .or _ _ => some .or
  | .not _ => some .not
  | .leaf _ => none

/-- Two conditions joined by an operator.  NOT has one operand only, which is the second one. -/
def join : Operator → Condition → Condition → Condition
  | .and, left, right => .and left right
  | .or, left, right => .or left right
  | .not, _, operand => .not operand

/-- The operands that an operator has at the top of a condition, from left to right, however
they are grouped.  A condition with another operator at the top is its only operand. -/
def operands (operator : Operator) : Condition → List Condition
  | .and left right =>
    if operator = .and then left.operands operator ++ right.operands operator
    else [.and left right]
  | .or left right =>
    if operator = .or then left.operands operator ++ right.operands operator
    else [.or left right]
  | .not operand => if operator = .not then [operand] else [.not operand]
  | .leaf literal => [.leaf literal]

@[simp]
theorem operator?_join (operator : Operator) (left right : Condition) :
    (join operator left right).operator? = some operator := by
  cases operator <;> rfl

theorem exists_join {operator : Operator} {condition : Condition}
    (top : condition.operator? = some operator) :
    ∃ left right, condition = join operator left right := by
  cases condition with
  | and left right | or left right =>
    cases top
    exact ⟨left, right, rfl⟩
  | not operand =>
    cases top
    exact ⟨operand, operand, rfl⟩
  | leaf => cases top

theorem self_mem_parts (condition : Condition) : condition ∈ condition.parts := by
  cases condition <;> exact List.mem_cons_self

/-! ## Conditions with another operator -/

theorem operator?_leaf_ne (literal : Literal) (operator : Operator) :
    (Condition.leaf literal).operator? ≠ some operator :=
  (Option.some_ne_none operator).symm

theorem operator?_not_ne {operator : Operator} (binary : operator ≠ .not) (operand : Condition) :
    (Condition.not operand).operator? ≠ some operator :=
  fun same => binary (Option.some.inj same).symm

theorem operands_of_ne {operator : Operator} {condition : Condition}
    (other : condition.operator? ≠ some operator) : condition.operands operator = [condition] := by
  cases condition with
  | leaf literal => rfl
  | and left right | or left right | not operand =>
    exact if_neg fun same => other (congrArg some same.symm)

theorem forall_operands_of_ne {P : Condition → Prop} {operator : Operator} {condition : Condition}
    (other : condition.operator? ≠ some operator) (whole : P condition) :
    ∀ operand ∈ condition.operands operator, P operand := by
  rw [operands_of_ne other]
  exact List.forall_mem_singleton.mpr whole

/-! ## Chains -/

section

variable {operator : Operator} (binary : operator ≠ .not)

include binary

theorem operands_join (left right : Condition) :
    (join operator left right).operands operator =
      left.operands operator ++ right.operands operator := by
  cases operator with
  | and | or => exact if_pos rfl
  | not => exact (binary rfl).elim

theorem parts_join (left right : Condition) :
    (join operator left right).parts =
      join operator left right :: (left.parts ++ right.parts) := by
  cases operator with
  | and | or => rfl
  | not => exact (binary rfl).elim

theorem join_inj {left right left' right' : Condition}
    (same : join operator left right = join operator left' right') :
    left = left' ∧ right = right' := by
  cases operator with
  | and | or =>
    cases same
    exact ⟨rfl, rfl⟩
  | not => exact (binary rfl).elim

/-- What every condition has that the operator does not join, and what a joined condition has
with both of its sides, every condition has. -/
theorem join_induction {P : Condition → Prop}
    (single : ∀ condition, condition.operator? ≠ some operator → P condition)
    (joined : ∀ left right, P left → P right → P (join operator left right))
    (condition : Condition) : P condition := by
  induction condition with
  | leaf literal => exact single _ (operator?_leaf_ne literal operator)
  | not operand => exact single _ (operator?_not_ne binary operand)
  | and left right ihl ihr =>
    by_cases same : operator = .and
    · subst same
      exact joined left right ihl ihr
    · exact single _ fun top => same (Option.some.inj top).symm
  | or left right ihl ihr =>
    by_cases same : operator = .or
    · subst same
      exact joined left right ihl ihr
    · exact single _ fun top => same (Option.some.inj top).symm

/-- An operand of AND or OR has another operator, and its parts stand in the condition. -/
theorem operand_spec (condition : Condition) :
    ∀ operand ∈ condition.operands operator,
      operand.operator? ≠ some operator ∧ operand.parts ⊆ condition.parts := by
  induction condition using join_induction binary with
  | single condition other => exact forall_operands_of_ne other ⟨other, List.Subset.refl _⟩
  | joined left right ihl ihr =>
    rw [operands_join binary, parts_join binary]
    intro operand mem
    rcases List.mem_append.mp mem with mem | mem
    · rcases ihl operand mem with ⟨other, within⟩
      exact ⟨other, fun part h => List.mem_cons_of_mem _ (List.mem_append_left _ (within h))⟩
    · rcases ihr operand mem with ⟨other, within⟩
      exact ⟨other, fun part h => List.mem_cons_of_mem _ (List.mem_append_right _ (within h))⟩

end

end Condition

end LiteralLogic
