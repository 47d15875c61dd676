import LiteralLogic.Proofs.NormalForm.Operands

/-!
# Chains below negations

Pairs of negations do not show in a query, so an operand of a chain may bring the operator of
the chain again (`Condition.ResumesChain`).  What literals have, what a negation has with its
operand, and what a chain has with its operands, every condition has
(`Condition.chain_induction`).
-/

namespace LiteralLogic

namespace Condition

open Operator (and_ne_not or_ne_not)

/-- The condition without the pairs of negations at its top. -/
def withoutPairs : Condition → Condition
  | .not (.not condition) => condition.withoutPairs
  | condition => condition

/-- The condition, or its negation. -/
def negatedIf (negated : Bool) (condition : Condition) : Condition :=
  if negated then .not condition else condition

/-- Somewhere in the condition, an operand of AND or OR is the same operator again but for
pairs of negations above it. -/
def ResumesChain (condition : Condition) : Prop :=
  ∃ chain ∈ condition.parts, ∃ operator ∈ [Operator.and, .or],
    chain.operator? = some operator ∧
      ∃ operand ∈ chain.operands operator, operand.withoutPairs.operator? = some operator

instance (condition : Condition) : Decidable condition.ResumesChain :=
  inferInstanceAs (Decidable (∃ chain ∈ condition.parts, _))

theorem withoutPairs_of_ne {condition : Condition} (positive : condition.operator? ≠ some .not) :
    condition.withoutPairs = condition := by
  cases condition with
  | not operand => exact (positive rfl).elim
  | and | or | leaf => rfl

/-- What literals have, what a negation has with its operand, and what a chain has with its
operands, every condition has. -/
theorem chain_induction {P : Condition → Prop} (leaf : ∀ literal, P (.leaf literal))
    (not : ∀ operand, P operand → P (.not operand))
    (chain : ∀ operator condition, operator ≠ .not → condition.operator? = some operator →
      (∀ operand ∈ condition.operands operator, P operand) → P condition)
    (condition : Condition) : P condition := by
  -- the operands of a chain are those of its two sides, so each side brings its operands along
  suffices both : P condition ∧ ∀ operator, operator ≠ .not →
      ∀ operand ∈ condition.operands operator, P operand from both.1
  have ofChain : ∀ {operator : Operator} {condition : Condition}, operator ≠ .not →
      condition.operator? = some operator →
      (∀ operand ∈ condition.operands operator, P operand) →
      P condition ∧ ∀ other, other ≠ .not → ∀ operand ∈ condition.operands other, P operand := by
    intro operator condition binary top operands
    have whole := chain operator condition binary top operands
    refine ⟨whole, fun other _ => ?_⟩
    by_cases same : other = operator
    · exact same ▸ operands
    · exact forall_operands_of_ne (fun top' => same (Option.some.inj (top'.symm.trans top))) whole
  induction condition with
  | leaf literal =>
    exact ⟨leaf literal, fun operator _ =>
      forall_operands_of_ne (operator?_leaf_ne literal operator) (leaf literal)⟩
  | not operand ih =>
    exact ⟨not operand ih.1, fun operator binary =>
      forall_operands_of_ne (operator?_not_ne binary operand) (not operand ih.1)⟩
  | and left right ihl ihr =>
    exact ofChain and_ne_not rfl
      (List.forall_mem_append.mpr ⟨ihl.2 _ and_ne_not, ihr.2 _ and_ne_not⟩)
  | or left right ihl ihr =>
    exact ofChain or_ne_not rfl
      (List.forall_mem_append.mpr ⟨ihl.2 _ or_ne_not, ihr.2 _ or_ne_not⟩)

/-- A chain has at least two operands. -/
theorem two_le_length_operands {operator : Operator} (binary : operator ≠ .not)
    {condition : Condition} (top : condition.operator? = some operator) :
    2 ≤ (condition.operands operator).length := by
  have nonempty : ∀ condition : Condition, 1 ≤ (condition.operands operator).length := by
    intro condition
    induction condition using join_induction binary with
    | single condition other =>
      rw [operands_of_ne other]
      exact Nat.le_refl 1
    | joined left right ihl _ =>
      rw [operands_join binary, List.length_append]
      exact Nat.le_add_right_of_le ihl
  obtain ⟨left, right, rfl⟩ := exists_join top
  rw [operands_join binary, List.length_append]
  exact Nat.add_le_add (nonempty left) (nonempty right)

/-- The operands of a disjunction of conditions are those of the conditions. -/
theorem operands_chain_or {conditions : List Condition} {condition : Condition}
    (joined : chain .or conditions = some condition) :
    condition.operands .or = conditions.flatMap (operands .or) :=
  value_chain (operands .or) (List.flatMap (operands .or)) (fun _ _ => rfl) List.append_assoc
    List.append_nil (fun _ _ => List.flatMap_cons) joined

end Condition

end LiteralLogic
