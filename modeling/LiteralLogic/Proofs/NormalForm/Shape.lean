import LiteralLogic.Proofs.NormalForm

/-!
# The shape of normal forms

`isNormalized_iff` says what the check for normal forms decides, in terms of the parts of
a condition: negations are of literals, and no part of a conjunction is a disjunction.
Normal forms pass the check, since they are chains of OR over chains of AND over literals
and negated literals, and a chain has the shape of its links.
-/

namespace LiteralLogic

namespace Condition

/-- The condition itself and all conditions that stand in it. -/
def parts : Condition → List Condition
  | .and left right => .and left right :: (left.parts ++ right.parts)
  | .or left right => .or left right :: (left.parts ++ right.parts)
  | .not operand => .not operand :: operand.parts
  | .leaf literal => [.leaf literal]

/-- Negations stand directly above literals only. -/
def NegatesLiterals (condition : Condition) : Prop :=
  ∀ operand, .not operand ∈ condition.parts → ∃ literal, operand = .leaf literal

/-- No disjunction stands in the condition. -/
def OrFree (condition : Condition) : Prop :=
  ∀ left right, .or left right ∉ condition.parts

/-- No disjunction stands in a conjunction. -/
def AndsOrFree (condition : Condition) : Prop :=
  ∀ left right, .and left right ∈ condition.parts → (Condition.and left right).OrFree

section

variable {left right : Condition}

theorem negatesLiterals_and :
    (Condition.and left right).NegatesLiterals ↔ left.NegatesLiterals ∧ right.NegatesLiterals := by
  simp [NegatesLiterals, parts, or_imp, forall_and]

theorem negatesLiterals_or :
    (Condition.or left right).NegatesLiterals ↔ left.NegatesLiterals ∧ right.NegatesLiterals := by
  simp [NegatesLiterals, parts, or_imp, forall_and]

theorem orFree_and : (Condition.and left right).OrFree ↔ left.OrFree ∧ right.OrFree := by
  simp [OrFree, parts, not_or, forall_and]

theorem not_orFree_or : ¬(Condition.or left right).OrFree :=
  fun free => free left right List.mem_cons_self

theorem andsOrFree_and : (Condition.and left right).AndsOrFree ↔
    (left.AndsOrFree ∧ right.AndsOrFree) ∧ left.OrFree ∧ right.OrFree := by
  rw [← orFree_and, and_comm]
  simp [AndsOrFree, parts, or_imp, forall_and]

theorem andsOrFree_or :
    (Condition.or left right).AndsOrFree ↔ left.AndsOrFree ∧ right.AndsOrFree := by
  simp [AndsOrFree, parts, or_imp, forall_and]

end

/-- The check asks for negations of literals, for conjunctions without disjunctions in
them and, below an AND, for no disjunction at all. -/
theorem isNormalBelow_iff (condition : Condition) (inAnd : Bool) :
    condition.isNormalBelow inAnd = true ↔
      condition.NegatesLiterals ∧ condition.AndsOrFree ∧ (inAnd = true → condition.OrFree) := by
  induction condition generalizing inAnd with
  | and left right ihl ihr =>
    rw [isNormalBelow, Bool.and_eq_true, ihl, ihr, negatesLiterals_and, andsOrFree_and, orFree_and]
    constructor
    · rintro ⟨⟨negates, ands, free⟩, negates', ands', free'⟩
      exact ⟨⟨negates', negates⟩, ⟨⟨ands', ands⟩, free' rfl, free rfl⟩,
        fun _ => ⟨free' rfl, free rfl⟩⟩
    · rintro ⟨⟨negates, negates'⟩, ⟨⟨ands, ands'⟩, free, free'⟩, -⟩
      exact ⟨⟨negates', ands', fun _ => free'⟩, negates, ands, fun _ => free⟩
  | or left right ihl ihr =>
    rw [isNormalBelow, Bool.and_eq_true, Bool.and_eq_true, ihl, ihr, negatesLiterals_or,
      andsOrFree_or]
    cases inAnd with
    | false => simp [and_assoc, and_left_comm, and_comm]
    | true => simp [not_orFree_or]
  | not operand ih =>
    cases operand <;>
      simp [isNormalBelow, NegatesLiterals, AndsOrFree, OrFree, parts, isLeaf]
  | leaf literal => simp [isNormalBelow, NegatesLiterals, AndsOrFree, OrFree, parts]

/-- The check for normal forms decides their shape. -/
theorem isNormalized_iff (condition : Condition) :
    condition.isNormalized = true ↔ condition.NegatesLiterals ∧ condition.AndsOrFree := by
  simp [isNormalized, isNormalBelow_iff]

/-- The conjunction of a term passes the check, below an AND or not. -/
theorem isNormalBelow_termCondition {term : Term} {conjunction : Condition}
    (h : term.condition = some conjunction) : conjunction.isNormalBelow true = true := by
  refine of_chain (fun left right => Bool.and_eq_true_iff.mpr ⟨right, left⟩) ?_ h
  intro operand mem
  obtain ⟨⟨literal, negated⟩, -, rfl⟩ := List.mem_map.mp mem
  cases negated <;> rfl

theorem isNormalized_of_isNormalBelow {condition : Condition}
    (h : condition.isNormalBelow true = true) : condition.isNormalized = true := by
  obtain ⟨negates, ands, -⟩ := (isNormalBelow_iff condition true).mp h
  exact (isNormalized_iff condition).mpr ⟨negates, ands⟩

theorem isNormalized_ofTerms {terms : List Term} {condition : Condition}
    (h : ofTerms terms = some condition) : condition.isNormalized = true := by
  refine of_chain (fun left right => Bool.and_eq_true_iff.mpr ⟨right, left⟩) ?_ h
  intro conjunction mem
  obtain ⟨term, -, built⟩ := List.mem_filterMap.mp mem
  exact isNormalized_of_isNormalBelow (isNormalBelow_termCondition built)

/-- Normal forms pass the check for normal forms. -/
theorem isNormalized_normalize (condition : Condition) :
    condition.normalize.isNormalized = true :=
  isNormalized_ofTerms condition.ofTerms_eq_some_normalize

/-- The normal form of a condition has its truth and is a normal form: it passes the check,
its negations stand above literals, and no OR stands below an AND. -/
theorem holds_and_isNormalized_normalize (condition : Condition) :
    (∀ truth, condition.normalize.holds truth = condition.holds truth) ∧
      condition.normalize.isNormalized = true ∧
      condition.normalize.NegatesLiterals ∧ condition.normalize.AndsOrFree := by
  have normalized := condition.isNormalized_normalize
  exact ⟨condition.holds_normalize, normalized,
    (isNormalized_iff condition.normalize).mp normalized⟩

end Condition

end LiteralLogic
