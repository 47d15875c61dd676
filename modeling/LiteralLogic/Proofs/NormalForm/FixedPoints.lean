import LiteralLogic.NormalForm.Rewriting
import LiteralLogic.Proofs.NormalForm.Operands
import LiteralLogic.Proofs.NormalForm.Terms

/-!
# Fixed points of normalization

A normal form has the terms that it was built from, so normalizing it builds it again.
What normalization leaves as it is are the conditions that pass the check for normal
forms and are grouped to the left: each of them is the chain of its own terms
(`Condition.ofTerms_terms`), and chains have this shape.
-/

namespace LiteralLogic

namespace Condition

open Operator (and_ne_not or_ne_not)

/-! ## Grouping to the left -/

/-- Nowhere in the condition does an operator have itself on its right. -/
def GroupsLeft (operator : Operator) (condition : Condition) : Prop :=
  ∀ left a b, join operator left (join operator a b) ∉ condition.parts

section

variable {operator : Operator} {left right : Condition}

theorem groupsLeft_join (binary : operator ≠ .not) :
    (join operator left right).GroupsLeft operator ↔
      right.operator? ≠ some operator ∧ left.GroupsLeft operator ∧ right.GroupsLeft operator := by
  have whole : (∀ l a b, join operator l (join operator a b) ≠ join operator left right) ↔
      right.operator? ≠ some operator := by
    constructor
    · intro apart top
      obtain ⟨a, b, rfl⟩ := exists_join top
      exact apart left a b rfl
    · intro other l a b same
      obtain ⟨-, rfl⟩ := join_inj binary same
      exact other (operator?_join operator a b)
  simp only [GroupsLeft, parts_join binary, List.mem_cons, List.mem_append, not_or, forall_and]
  exact and_congr_left' whole

theorem groupsLeft_join_of_ne {other : Operator} (binary : other ≠ .not)
    (ne : other ≠ operator) :
    (join other left right).GroupsLeft operator ↔
      left.GroupsLeft operator ∧ right.GroupsLeft operator := by
  have apart : ∀ l r, join operator l r ≠ join other left right := by
    intro l r same
    have tops := congrArg operator? same
    rw [operator?_join, operator?_join] at tops
    exact ne (Option.some.inj tops).symm
  simp [GroupsLeft, parts_join binary, apart, forall_and]

theorem isLeftGrouped_join (binary : operator ≠ .not) :
    (join operator left right).isLeftGrouped = true ↔ right.operator? ≠ some operator ∧
      left.isLeftGrouped = true ∧ right.isLeftGrouped = true := by
  cases operator with
  | and | or => cases right <;> simp [join, isLeftGrouped, isDisjunction, operator?]
  | not => exact (binary rfl).elim

end

/-- The check for grouping to the left looks at all right operands. -/
theorem isLeftGrouped_iff (condition : Condition) :
    condition.isLeftGrouped = true ↔ condition.GroupsLeft .or ∧ condition.GroupsLeft .and := by
  induction condition with
  | and left right ihl ihr =>
    have whole : (Condition.and left right).isLeftGrouped = true ↔ _ :=
      isLeftGrouped_join and_ne_not
    have ands : (Condition.and left right).GroupsLeft .and ↔ _ := groupsLeft_join and_ne_not
    have ors : (Condition.and left right).GroupsLeft .or ↔ _ :=
      groupsLeft_join_of_ne and_ne_not (by decide)
    rw [whole, ands, ors, ihl, ihr]
    simp only [and_assoc, and_left_comm, and_comm]
  | or left right ihl ihr =>
    have whole : (Condition.or left right).isLeftGrouped = true ↔ _ :=
      isLeftGrouped_join or_ne_not
    have ors : (Condition.or left right).GroupsLeft .or ↔ _ := groupsLeft_join or_ne_not
    have ands : (Condition.or left right).GroupsLeft .and ↔ _ :=
      groupsLeft_join_of_ne or_ne_not (by decide)
    rw [whole, ands, ors, ihl, ihr]
    simp only [and_assoc, and_left_comm, and_comm]
  | not operand ih =>
    rw [isLeftGrouped, ih]
    simp [GroupsLeft, parts, join]
  | leaf literal => simp [isLeftGrouped, GroupsLeft, parts, join]

/-! ## Chains of terms -/

/-- One link more at the end of a chain. -/
theorem chain_concat {join : Condition → Condition → Condition} {conditions : List Condition}
    {condition : Condition} (h : chain join conditions = some condition) (link : Condition) :
    chain join (conditions ++ [link]) = some (join condition link) := by
  cases conditions with
  | nil => cases h
  | cons first rest =>
    cases h
    rw [List.cons_append, chain, List.foldl_append, List.foldl_cons, List.foldl_nil]

/-- Below an AND, what is neither an AND nor an OR is an atom. -/
theorem exists_atom {condition : Condition} (normal : condition.isNormalBelow true = true)
    (single : condition.operator? ≠ some .and) : ∃ atom : Atom, condition = atom.condition := by
  cases condition with
  | leaf literal => exact ⟨⟨literal, false⟩, rfl⟩
  | not operand =>
    cases operand with
    | leaf literal => exact ⟨⟨literal, true⟩, rfl⟩
    | and | or | not => cases normal
  | or left right => cases normal
  | and left right => exact (single rfl).elim

/-- A conjunction that is grouped to the left is the chain of its only term. -/
theorem exists_term {condition : Condition} (normal : condition.isNormalBelow true = true)
    (grouped : condition.isLeftGrouped = true) :
    ∃ term : Term, condition.terms true = [term] ∧ term.condition = some condition := by
  induction condition with
  | leaf literal => exact ⟨[⟨literal, false⟩], rfl, rfl⟩
  | not operand ih =>
    rcases exists_atom normal (operator?_not_ne and_ne_not operand) with ⟨atom, same⟩
    rw [same]
    exact ⟨[atom], atom.terms_condition, rfl⟩
  | or left right => cases normal
  | and left right ihl ihr =>
    rcases Bool.and_eq_true_iff.mp normal with ⟨normalRight, normalLeft⟩
    rcases (isLeftGrouped_join and_ne_not).mp grouped with ⟨single, groupedLeft, -⟩
    rcases ihl normalLeft groupedLeft with ⟨term, terms, built⟩
    rcases exists_atom normalRight single with ⟨atom, rfl⟩
    refine ⟨term ++ [atom], ?_, ?_⟩
    · show Term.product (left.terms true) (atom.condition.terms true) = [term ++ [atom]]
      rw [terms, atom.terms_condition]
      rfl
    · unfold Term.condition
      rw [List.map_append]
      exact chain_concat built atom.condition

/-- What is no OR is normal below an AND if it is normal at all. -/
theorem isNormalBelow_of_isNormalized {condition : Condition}
    (normal : condition.isNormalized = true) (single : condition.operator? ≠ some .or) :
    condition.isNormalBelow true = true := by
  cases condition with
  | or left right => exact (single rfl).elim
  | leaf | not | and => exact normal

/-- A condition of the shape of normal forms is the chain of its terms. -/
theorem ofTerms_terms {condition : Condition} (normal : condition.isNormalized = true)
    (grouped : condition.isLeftGrouped = true) :
    ofTerms (condition.terms true) = some condition := by
  have conjunction : ∀ {part : Condition}, part.isNormalBelow true = true →
      part.isLeftGrouped = true → ofTerms (part.terms true) = some part := by
    intro part normal grouped
    rcases exists_term normal grouped with ⟨term, terms, built⟩
    rw [terms, ofTerms, List.filterMap_cons_some built]
    rfl
  induction condition with
  | leaf | not | and => exact conjunction normal grouped
  | or left right ihl ihr =>
    rcases Bool.and_eq_true_iff.mp normal with ⟨normalRight, normalLeft⟩
    rcases (isLeftGrouped_join or_ne_not).mp grouped with ⟨single, groupedLeft, groupedRight⟩
    have before := ihl normalLeft groupedLeft
    rcases exists_term (isNormalBelow_of_isNormalized normalRight single) groupedRight with
      ⟨term, terms, built⟩
    show ofTerms (left.terms true ++ right.terms true) = some (.or left right)
    unfold ofTerms
    rw [terms, List.filterMap_append, List.filterMap_cons_some built]
    exact chain_concat before right

/-! ## The shape of normal forms -/

/-- A conjunction of atoms is grouped to the left, and no OR. -/
theorem isLeftGrouped_termCondition {term : Term} {conjunction : Condition}
    (h : term.condition = some conjunction) :
    conjunction.isLeftGrouped = true ∧ conjunction.operator? ≠ some .or := by
  have atoms : ∀ link ∈ term.map Atom.condition, ∃ atom : Atom, link = atom.condition := by
    intro link mem
    rcases List.mem_map.mp mem with ⟨atom, -, rfl⟩
    exact ⟨atom, rfl⟩
  refine of_chain_links (P := fun chain => chain.isLeftGrouped = true ∧ chain.operator? ≠ some .or)
    ?_ ?_ atoms h
  · intro link atom
    rcases atom with ⟨⟨literal, negated⟩, rfl⟩
    cases negated <;> simp [Atom.condition, isLeftGrouped, operator?]
  · intro left right grouped atom
    rcases atom with ⟨⟨literal, negated⟩, rfl⟩
    refine ⟨(isLeftGrouped_join and_ne_not).mpr ⟨?_, grouped.1, ?_⟩, by simp [operator?]⟩ <;>
      cases negated <;> simp [Atom.condition, isLeftGrouped, operator?]

theorem isLeftGrouped_ofTerms {terms : List Term} {condition : Condition}
    (h : ofTerms terms = some condition) : condition.isLeftGrouped = true := by
  have conjunctions : ∀ link ∈ terms.filterMap Term.condition,
      link.isLeftGrouped = true ∧ link.operator? ≠ some .or := by
    intro link mem
    rcases List.mem_filterMap.mp mem with ⟨term, -, built⟩
    exact isLeftGrouped_termCondition built
  refine of_chain_links (fun link => link.1) ?_ conjunctions h
  intro left right grouped link
  exact (isLeftGrouped_join or_ne_not).mpr ⟨link.2, grouped, link.1⟩

/-- The conditions that are their own normal forms are those that pass the check and are
grouped to the left. -/
theorem normalize_eq_self_iff (condition : Condition) :
    condition.normalize = condition ↔
      condition.isNormalized = true ∧ condition.isLeftGrouped = true := by
  have built := condition.ofTerms_eq_some_normalize
  constructor
  · intro fixed
    rw [fixed] at built
    exact ⟨isNormalized_ofTerms built, isLeftGrouped_ofTerms built⟩
  · rintro ⟨normal, grouped⟩
    rw [ofTerms_terms normal grouped] at built
    exact (Option.some.inj built).symm

/-- Normalizing twice is normalizing once, and what normalizing leaves as it is are the
conditions that pass the check for normal forms and in which no OR has an OR and no AND has
an AND as its right operand. -/
theorem normalize_normalize_and_eq_self_iff (condition : Condition) :
    condition.normalize.normalize = condition.normalize ∧
      (condition.normalize = condition ↔
        condition.isNormalized = true ∧
          (∀ left a b, .or left (.or a b) ∉ condition.parts) ∧
          ∀ left a b, .and left (.and a b) ∉ condition.parts) := by
  have built := condition.normalize.ofTerms_eq_some_normalize
  rw [terms_normalize, ofTerms_eq_some_normalize] at built
  refine ⟨(Option.some.inj built).symm, ?_⟩
  rw [normalize_eq_self_iff, isLeftGrouped_iff]
  rfl

/-- A chain that is grouped to the right is regrouped, and its normal form stays. -/
example :
    (Condition.and (.leaf ⟨"a", false⟩) (.and (.leaf ⟨"b", false⟩) (.leaf ⟨"c", true⟩))).normalize =
      .and (.and (.leaf ⟨"a", false⟩) (.leaf ⟨"b", false⟩)) (.leaf ⟨"c", true⟩) := by
  rw [normalize, expand_eq]
  rfl

end Condition

end LiteralLogic
