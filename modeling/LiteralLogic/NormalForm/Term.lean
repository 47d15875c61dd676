import LiteralLogic.Condition

/-!
# Conjunction terms

An atom is a literal or its negation, and a term is a conjunction of atoms.  Every
condition is a disjunction of terms: negations are pushed down to the literals,
and a conjunction of disjunctions is multiplied out with the left terms first.

`Condition.any_terms` says that the terms of a condition keep its truth.
-/

namespace LiteralLogic

/-- A literal or its negation. -/
structure Atom where
  literal : Literal
  negated : Bool
deriving DecidableEq, Inhabited

/-- A conjunction of atoms. -/
abbrev Term := List Atom

/-- The truth of an atom. -/
def Atom.holds (truth : Literal → Bool) (atom : Atom) : Bool :=
  truth atom.literal != atom.negated

/-- The condition that an atom is. -/
def Atom.condition (atom : Atom) : Condition :=
  if atom.negated then .not (.leaf atom.literal) else .leaf atom.literal

/-- The truth of a term. -/
def Term.holds (truth : Literal → Bool) (term : Term) : Bool :=
  term.all (Atom.holds truth)

/-- Every left term extended by every right term, the left terms first. -/
def Term.product (left right : List Term) : List Term :=
  left.flatMap fun l => right.map (l ++ ·)

/-- The terms of a condition, or of its negation if not `positive`, in the order
of their operands. -/
def Condition.terms (positive : Bool) : Condition → List Term
  | .leaf literal => [[⟨literal, !positive⟩]]
  | .not operand => operand.terms (!positive)
  | .and left right =>
    if positive then Term.product (left.terms positive) (right.terms positive)
    else left.terms positive ++ right.terms positive
  | .or left right =>
    if positive then left.terms positive ++ right.terms positive
    else Term.product (left.terms positive) (right.terms positive)

theorem Term.any_map_append (truth : Literal → Bool) (l : Term) (right : List Term) :
    (right.map (l ++ ·)).any (Term.holds truth) =
      (Term.holds truth l && right.any (Term.holds truth)) := by
  induction right with
  | nil => simp
  | cons r right ih =>
    rw [List.map_cons, List.any_cons, ih, List.any_cons, Bool.and_or_distrib_left]
    simp [Term.holds, List.all_append]

theorem Term.any_product (truth : Literal → Bool) (left right : List Term) :
    (Term.product left right).any (Term.holds truth) =
      (left.any (Term.holds truth) && right.any (Term.holds truth)) := by
  induction left with
  | nil => simp [Term.product]
  | cons l left ih =>
    rw [Term.product, List.flatMap_cons, List.any_append, Term.any_map_append, ← Term.product, ih,
      List.any_cons, Bool.and_or_distrib_right]

/-- A condition holds exactly if one of its terms does, and fails exactly if one
of the terms of its negation holds. -/
theorem Condition.any_terms (truth : Literal → Bool) (condition : Condition) (positive : Bool) :
    (condition.terms positive).any (Term.holds truth) = (condition.holds truth == positive) := by
  induction condition generalizing positive with
  | leaf literal =>
    cases positive <;> cases h : truth literal <;>
      simp [Condition.terms, Term.holds, Atom.holds, Condition.holds, h]
  | not operand ih =>
    rw [Condition.terms, ih]
    cases positive <;> cases h : operand.holds truth <;> simp [Condition.holds, h]
  | and left right ihl ihr | or left right ihl ihr =>
    cases positive <;>
      cases hl : left.holds truth <;> cases hr : right.holds truth <;>
      simp [Condition.terms, Term.any_product, ihl, ihr, Condition.holds, hl, hr]

/-- A condition has a term, and no term of it is empty. -/
theorem Condition.terms_ne_nil (condition : Condition) (positive : Bool) :
    condition.terms positive ≠ [] ∧ ∀ term ∈ condition.terms positive, term ≠ [] := by
  induction condition generalizing positive with
  | leaf literal => simp [Condition.terms]
  | not operand ih => exact ih (!positive)
  | and left right ihl ihr | or left right ihl ihr =>
    obtain ⟨hl, hl'⟩ := ihl positive
    obtain ⟨hr, hr'⟩ := ihr positive
    have sum : left.terms positive ++ right.terms positive ≠ [] ∧
        ∀ term ∈ left.terms positive ++ right.terms positive, term ≠ [] := by
      refine ⟨by simp [hl], fun term h => ?_⟩
      rcases List.mem_append.mp h with h | h
      · exact hl' term h
      · exact hr' term h
    have prod : Term.product (left.terms positive) (right.terms positive) ≠ [] ∧
        ∀ term ∈ Term.product (left.terms positive) (right.terms positive), term ≠ [] := by
      obtain ⟨l, ls, hls⟩ := List.exists_cons_of_ne_nil hl
      obtain ⟨r, rs, hrs⟩ := List.exists_cons_of_ne_nil hr
      refine ⟨by simp [Term.product, hls, hrs], fun term h => ?_⟩
      simp only [Term.product, List.mem_flatMap, List.mem_map] at h
      obtain ⟨l, hmem, r, _, rfl⟩ := h
      simp [hl' l hmem]
    cases positive <;> simp only [Condition.terms] <;> first | exact sum | exact prod

end LiteralLogic
