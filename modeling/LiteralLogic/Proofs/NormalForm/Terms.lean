import LiteralLogic.NormalForm.Polarity
import LiteralLogic.Proofs.NormalForm

/-!
# The terms of normal forms

A normal form is built from the terms of a condition and has these terms again, in the
same order (`Condition.terms_normalize`).  So the AND-paths of a normal form are the
terms of the condition itself in canonical order (`Condition.normalPaths_eq`), and its
atoms are those of the condition.
-/

namespace LiteralLogic

namespace Term

theorem product_assoc (a b c : List Term) :
    product (product a b) c = product a (product b c) := by
  simp only [product, List.flatMap_assoc, List.flatMap_map, List.map_flatMap, List.map_map,
    Function.comp_def, List.append_assoc]

theorem product_append (a b c : List Term) : product (a ++ b) c = product a c ++ product b c :=
  List.flatMap_append

/-- Every product of a left and a right term, or all of them one behind the other. -/
def join (isProduct : Bool) (left right : List Term) : List Term :=
  if isProduct then product left right else left ++ right

theorem join_assoc (isProduct : Bool) (a b c : List Term) :
    join isProduct (join isProduct a b) c = join isProduct a (join isProduct b c) := by
  cases isProduct with
  | true => exact product_assoc a b c
  | false => exact List.append_assoc a b c

/-- The empty term says nothing. -/
theorem product_empty (terms : List Term) : product terms [[]] = terms := by
  simp [product]

/-- Multiplying single atoms one behind the other gives the term of all of them. -/
theorem foldr_product_atoms (term : Term) :
    (term.map fun atom => [[atom]]).foldr product [[]] = [term] := by
  induction term with
  | nil => rfl
  | cons atom term ih =>
    rw [List.map_cons, List.foldr_cons, ih]
    rfl

end Term

theorem Atom.terms_condition (atom : Atom) : atom.condition.terms true = [[atom]] := by
  obtain ⟨literal, negated⟩ := atom
  cases negated <;> rfl

namespace Condition

theorem terms_and (left right : Condition) (positive : Bool) :
    (Condition.and left right).terms positive =
      Term.join positive (left.terms positive) (right.terms positive) := rfl

theorem terms_or (left right : Condition) (positive : Bool) :
    (Condition.or left right).terms positive =
      Term.join (!positive) (left.terms positive) (right.terms positive) := by
  cases positive <;> rfl

theorem terms_chain_and {conditions : List Condition} {condition : Condition}
    (h : chain .and conditions = some condition) :
    condition.terms true = (conditions.map (terms true)).foldr Term.product [[]] :=
  value_chain (terms true) (fun links => (links.map (terms true)).foldr Term.product [[]])
    (fun _ _ => rfl) Term.product_assoc Term.product_empty (fun _ _ => rfl) h

theorem terms_chain_or {conditions : List Condition} {condition : Condition}
    (h : chain .or conditions = some condition) :
    condition.terms true = conditions.flatMap (terms true) :=
  value_chain (terms true) (List.flatMap (terms true)) (fun _ _ => rfl) List.append_assoc
    List.append_nil (fun _ _ => List.flatMap_cons) h

end Condition

/-- The conjunction of a term has this term only. -/
theorem Term.terms_condition {term : Term} {condition : Condition}
    (h : term.condition = some condition) : condition.terms true = [term] := by
  rw [Condition.terms_chain_and h, List.map_map, ← Term.foldr_product_atoms term]
  congr 2
  funext atom
  exact atom.terms_condition

namespace Condition

/-- The disjunction of terms has these terms. -/
theorem terms_ofTerms {terms : List Term} (nonempty : ∀ term ∈ terms, term ≠ [])
    {condition : Condition} (h : ofTerms terms = some condition) :
    condition.terms true = terms := by
  rw [terms_chain_or h]
  clear h
  induction terms with
  | nil => rfl
  | cons term terms ih =>
    obtain ⟨conjunction, built, -⟩ := Term.exists_condition (nonempty term List.mem_cons_self)
    rw [List.filterMap_cons_some built, List.flatMap_cons, Term.terms_condition built,
      ih fun term mem => nonempty term (List.mem_cons_of_mem _ mem)]
    rfl

/-- The normal form of a condition has its terms. -/
theorem terms_normalize (condition : Condition) :
    condition.normalize.terms true = condition.terms true :=
  terms_ofTerms (condition.terms_ne_nil true).2 condition.ofTerms_eq_some_normalize

theorem normalPaths_eq (condition : Condition) :
    condition.normalPaths = (condition.terms true).map Term.canonical := by
  rw [normalPaths, terms_normalize]

/-- An atom stands in a canonical path exactly if it stands in the condition. -/
theorem mem_normalPaths_iff (condition : Condition) (atom : Atom) :
    (∃ path ∈ condition.normalPaths, atom ∈ path) ↔ atom ∈ condition.atoms true := by
  rw [normalPaths_eq, mem_atoms_iff]
  constructor
  · intro found
    rcases found with ⟨path, mem, inPath⟩
    rcases List.mem_map.mp mem with ⟨term, inTerms, rfl⟩
    exact ⟨term, inTerms, mem_ascending.mp inPath⟩
  · intro found
    rcases found with ⟨term, mem, inTerm⟩
    exact ⟨term.canonical, List.mem_map_of_mem mem, mem_ascending.mpr inTerm⟩

/-- No path has a positive atom exactly if every literal of the condition stands under an odd
number of negations. -/
theorem normalPaths_all_isNegative_iff (condition : Condition) :
    (!condition.normalPaths.isEmpty && condition.normalPaths.all Term.isNegative) = true ↔
      ∀ leaf ∈ condition.leaves 0, leaf.2 % 2 = 1 := by
  have nonempty : condition.normalPaths.isEmpty = false := by
    rw [normalPaths_eq, List.isEmpty_map, List.isEmpty_eq_false_iff]
    exact (condition.terms_ne_nil true).1
  have paths : condition.normalPaths.all Term.isNegative = true ↔
      ∀ atom ∈ condition.atoms true, atom.negated = true := by
    simp only [List.all_eq_true, Term.isNegative, ← mem_normalPaths_iff, forall_exists_index,
      and_imp]
    exact ⟨fun h atom path mem inPath => h path mem atom inPath,
      fun h path mem atom inPath => h atom path mem inPath⟩
  have atoms : condition.atoms true = _ := condition.atoms_eq_map_leaves 0
  rw [nonempty, Bool.not_false, Bool.true_and, paths, atoms, List.forall_mem_map]
  simp only [decide_eq_true_eq]

end Condition

end LiteralLogic
