import LiteralLogic.Proofs.NormalForm.Shape
import LiteralLogic.Proofs.NormalForm.Terms
import Mathlib.Data.String.Basic
import Mathlib.Order.Compare

/-!
# Taking AND-paths from any condition

AND-paths are taken from a condition unless one of its negations stands above something other
than a literal.  An OR below an AND does not matter: the paths are those of the normal form,
since a normal form has the terms of the condition it was built from.

`Atom.Before` is the order in which a path lists its atoms, spelled out.
-/

namespace LiteralLogic

/-- Positive atoms come before negated ones, atoms of one sign in the order of their texts, and
of one text the atom that minds letter case first. -/
def Atom.Before (a b : Atom) : Prop :=
  (a.negated = false ∧ b.negated = true) ∨
    a.negated = b.negated ∧
      (a.literal.text < b.literal.text ∨
        a.literal.text = b.literal.text ∧
          a.literal.caseInsensitive = false ∧ b.literal.caseInsensitive = true)

theorem Atom.compare_eq_lt_iff (a b : Atom) : Atom.compare a b = .lt ↔ a.Before b := by
  simp only [Atom.compare, compareLex, compareOn, Ordering.then_eq_lt, compare_lt_iff_lt,
    compare_eq_iff_eq, Bool.lt_iff, Before]

/-- A canonical path is strictly ascending, so it has no atom twice. -/
theorem Term.pairwise_before_canonical (term : Term) :
    term.canonical.Pairwise Atom.Before :=
  (pairwise_ascending term).imp fun {a b} h => (Atom.compare_eq_lt_iff a b).mp h

namespace Condition

theorem isLeaf_iff (condition : Condition) :
    condition.isLeaf = true ↔ ∃ literal, condition = .leaf literal := by
  cases condition <;> simp [isLeaf]

/-- The answer whether a compound is negated is about all negations in a condition. -/
theorem negatesCompound_eq_false_iff (condition : Condition) :
    condition.negatesCompound = false ↔ condition.NegatesLiterals := by
  induction condition with
  | and left right ihl ihr =>
    rw [negatesCompound, Bool.or_eq_false_iff, ihl, ihr, negatesLiterals_and]
  | or left right ihl ihr =>
    rw [negatesCompound, Bool.or_eq_false_iff, ihl, ihr, negatesLiterals_or]
  | not operand ih =>
    rw [negatesCompound, Bool.or_eq_false_iff, ih, Bool.not_eq_false', isLeaf_iff]
    simp [NegatesLiterals, parts]
  | leaf literal => simp [negatesCompound, NegatesLiterals, parts]

/-- The only reason to refuse a condition is a negation of a compound. -/
theorem andPaths_eq_error_iff {condition : Condition} {cause : ConditionError} :
    condition.andPaths = .error cause ↔
      condition.negatesCompound = true ∧ cause = .notNormalized := by
  rw [andPaths, expand_eq]
  cases condition.negatesCompound <;> simp [eq_comm]

/-- What is not refused has the paths of its normal form. -/
theorem andPaths_of_negatesLiterals {condition : Condition} (h : condition.NegatesLiterals) :
    condition.andPaths = condition.normalize.andPaths := by
  rw [andPaths_normalize, normalPaths_eq, andPaths_eq_ok_iff]
  exact ⟨(negatesCompound_eq_false_iff condition).mpr h, rfl⟩

/-- A condition is refused exactly if a negation in it stands above something other than a
literal.  Otherwise its paths are those of its normal form, which is never refused; each is
strictly ascending, and the condition is true exactly if all atoms of one of them are. -/
theorem andPaths_eq_error_iff_and_eq_normalize (condition : Condition) :
    (condition.andPaths = .error .notNormalized ↔
        ∃ operand, .not operand ∈ condition.parts ∧ ∀ literal, operand ≠ .leaf literal) ∧
      (condition.andPaths ≠ .error .notNormalized →
        condition.andPaths = condition.normalize.andPaths) ∧
      (∃ paths, condition.normalize.andPaths = .ok paths) ∧
      ∀ paths, condition.andPaths = .ok paths →
        (∀ path ∈ paths, path.Pairwise Atom.Before) ∧
          ∀ truth, condition.holds truth = true ↔
            ∃ path ∈ paths, ∀ atom ∈ path, atom.holds truth = true := by
  have refused : condition.andPaths = .error .notNormalized ↔ ¬condition.NegatesLiterals := by
    rw [andPaths_eq_error_iff, ← negatesCompound_eq_false_iff, Bool.not_eq_false,
      and_iff_left rfl]
  refine ⟨?_, ?_, ⟨_, condition.andPaths_normalize⟩, ?_⟩
  · rw [refused]
    simp only [NegatesLiterals, not_forall, not_exists, exists_prop]
  · intro accepted
    exact andPaths_of_negatesLiterals (not_not.mp (mt refused.mpr accepted))
  · intro paths extracted
    constructor
    · intro path mem
      rcases andPaths_eq_ok_iff.mp extracted with ⟨-, rfl⟩
      rcases List.mem_map.mp mem with ⟨term, -, rfl⟩
      exact term.pairwise_before_canonical
    · intro truth
      rw [← any_andPaths extracted truth, List.any_eq_true]
      simp only [Term.holds, List.all_eq_true]

/-- An OR below an AND is multiplied out, and an atom that a path would have twice is listed
once. -/
example :
    (Condition.and (.not (.leaf ⟨"a", false⟩))
      (.or (.leaf ⟨"b", false⟩) (.not (.leaf ⟨"a", false⟩)))).andPaths =
      .ok [[⟨⟨"b", false⟩, false⟩, ⟨⟨"a", false⟩, true⟩], [⟨⟨"a", false⟩, true⟩]] := by
  rw [andPaths, expand_eq]
  decide +kernel

end Condition

end LiteralLogic
