import LiteralLogic.NormalForm.Term

/-!
# Literals with their signs

Every occurrence of a literal in a condition has a sign: it is negated if an odd number
of negations stands above it (`Condition.atoms_eq_map_leaves`).  `Condition.mem_atoms_iff`
says that the atoms of a condition are the atoms of its terms, so that multiplying out
neither loses a literal nor changes a sign.
-/

namespace LiteralLogic

namespace Condition

/-- The literals of a condition, or of its negation if not `positive`, from left to
right with their signs. -/
def atoms (positive : Bool) : Condition → List Atom
  | .leaf literal => [⟨literal, !positive⟩]
  | .not operand => operand.atoms (!positive)
  | .and left right => left.atoms positive ++ right.atoms positive
  | .or left right => left.atoms positive ++ right.atoms positive

/-- The literals of a condition from left to right, each with the number of negations that
stand above it when `above` of them stand above the whole condition. -/
def leaves (above : Nat) : Condition → List (Literal × Nat)
  | .leaf literal => [(literal, above)]
  | .not operand => operand.leaves (above + 1)
  | .and left right => left.leaves above ++ right.leaves above
  | .or left right => left.leaves above ++ right.leaves above

/-- The number of terms of a condition, or of its negation if not `positive`. -/
def termCount (positive : Bool) : Condition → Nat
  | .leaf _ => 1
  | .not operand => operand.termCount (!positive)
  | .and left right =>
    if positive then left.termCount positive * right.termCount positive
    else left.termCount positive + right.termCount positive
  | .or left right =>
    if positive then left.termCount positive + right.termCount positive
    else left.termCount positive * right.termCount positive

theorem map_literal_atoms (condition : Condition) (positive : Bool) :
    (condition.atoms positive).map Atom.literal = condition.literals := by
  induction condition generalizing positive with
  | leaf literal => rfl
  | not operand ih => exact ih (!positive)
  | and left right ihl ihr | or left right ihl ihr => simp [atoms, ihl, ihr]

/-- A literal is negated exactly if the number of negations above it is odd. -/
theorem atoms_eq_map_leaves (condition : Condition) (above : Nat) :
    condition.atoms (above % 2 = 0) =
      (condition.leaves above).map fun (literal, negations) => ⟨literal, negations % 2 = 1⟩ := by
  induction condition generalizing above with
  | leaf literal =>
    rw [atoms, leaves, List.map_singleton, ← decide_not]
    simp only [Nat.mod_two_not_eq_zero]
  | not operand ih =>
    have flipped : (!decide (above % 2 = 0)) = decide ((above + 1) % 2 = 0) := by
      rw [← decide_not, decide_eq_decide]
      omega
    rw [atoms, flipped, ih, leaves]
  | and left right ihl ihr | or left right ihl ihr => simp [atoms, leaves, ihl, ihr]

end Condition

theorem Term.length_product (left right : List Term) :
    (Term.product left right).length = left.length * right.length := by
  induction left with
  | nil => simp [Term.product]
  | cons l left ih =>
    rw [Term.product, List.flatMap_cons, List.length_append, ← Term.product, ih,
      List.length_map, List.length_cons, Nat.succ_mul, Nat.add_comm]

/-- The atoms of a product are those of both sides, if neither side is empty. -/
theorem Term.mem_product_iff {left right : List Term} (hl : left ≠ []) (hr : right ≠ [])
    (atom : Atom) :
    (∃ term ∈ Term.product left right, atom ∈ term) ↔
      (∃ term ∈ left, atom ∈ term) ∨ ∃ term ∈ right, atom ∈ term := by
  obtain ⟨l₀, hl₀⟩ := List.exists_mem_of_ne_nil left hl
  obtain ⟨r₀, hr₀⟩ := List.exists_mem_of_ne_nil right hr
  simp only [Term.product, List.mem_flatMap, List.mem_map]
  constructor
  · rintro ⟨_, ⟨l, hl, r, hr, rfl⟩, h⟩
    rcases List.mem_append.mp h with h | h
    · exact .inl ⟨l, hl, h⟩
    · exact .inr ⟨r, hr, h⟩
  · rintro (⟨l, hl, h⟩ | ⟨r, hr, h⟩)
    · exact ⟨l ++ r₀, ⟨l, hl, r₀, hr₀, rfl⟩, List.mem_append_left _ h⟩
    · exact ⟨l₀ ++ r, ⟨l₀, hl₀, r, hr, rfl⟩, List.mem_append_right _ h⟩

theorem Condition.length_terms (condition : Condition) (positive : Bool) :
    (condition.terms positive).length = condition.termCount positive := by
  induction condition generalizing positive with
  | leaf literal => rfl
  | not operand ih => exact ih (!positive)
  | and left right ihl ihr | or left right ihl ihr =>
    cases positive <;>
      simp [Condition.terms, Condition.termCount, Term.length_product, ihl, ihr]

theorem Condition.mem_atoms_iff (condition : Condition) (positive : Bool) (atom : Atom) :
    atom ∈ condition.atoms positive ↔ ∃ term ∈ condition.terms positive, atom ∈ term := by
  induction condition generalizing positive with
  | leaf literal => simp [Condition.atoms, Condition.terms]
  | not operand ih => exact ih (!positive)
  | and left right ihl ihr | or left right ihl ihr =>
    have product := Term.mem_product_iff (left.terms_ne_nil positive).1
      (right.terms_ne_nil positive).1 atom
    cases positive <;>
      simp only [Condition.atoms, Condition.terms, List.mem_append, ihl, ihr, if_true, product,
        Bool.false_eq_true, if_false, or_and_right, exists_or]

end LiteralLogic
