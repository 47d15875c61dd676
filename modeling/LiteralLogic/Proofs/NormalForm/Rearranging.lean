import LiteralLogic.NormalForm.Rewriting
import LiteralLogic.Proofs.NormalForm.Terms
import Mathlib.Data.List.Perm.Basic

/-!
# Operands in another order and grouping

Two conditions that are rearrangements of each other have the same AND-paths, up to their
order.  Swapping the operands of a product changes the order of its terms and the order of
the atoms in each term; canonical terms do not see the second (`Term.canonical_append_comm`),
and the first makes a permutation (`Term.perm_join_comm`).
-/

namespace LiteralLogic

namespace Term

/-- Terms with the same atoms are the same in canonical order. -/
theorem canonical_eq_iff {term other : Term} :
    term.canonical = other.canonical ↔ ∀ atom, atom ∈ term ↔ atom ∈ other :=
  ascending_eq_iff

theorem canonical_append_comm (l r : Term) : (l ++ r).canonical = (r ++ l).canonical := by
  rw [canonical_eq_iff]
  intro atom
  rw [List.mem_append, List.mem_append, or_comm]

/-- The canonical order of a term does not depend on the order of its parts. -/
theorem canonical_append_canonical (l r : Term) :
    (l.canonical ++ r.canonical).canonical = (l ++ r).canonical := by
  rw [canonical_eq_iff]
  intro atom
  simp only [canonical, List.mem_append, mem_ascending]

/-- Canonical products come from canonical factors. -/
theorem map_canonical_product (left right : List Term) :
    (product left right).map canonical =
      (product (left.map canonical) (right.map canonical)).map canonical := by
  simp only [product, List.map_flatMap, List.map_map, List.flatMap_map, Function.comp_def,
    canonical_append_canonical]

theorem perm_product {left left' right right' : List Term} (permLeft : left.Perm left')
    (permRight : right.Perm right') : (product left right).Perm (product left' right') :=
  permLeft.flatMap fun _ _ => permRight.map _

/-- Lists of terms that have the same canonical terms, up to their order. -/
def Alike (terms others : List Term) : Prop :=
  (terms.map canonical).Perm (others.map canonical)

theorem alike_join {isProduct : Bool} {left left' right right' : List Term}
    (alikeLeft : Alike left left') (alikeRight : Alike right right') :
    Alike (join isProduct left right) (join isProduct left' right') := by
  cases isProduct with
  | true =>
    show ((product left right).map canonical).Perm ((product left' right').map canonical)
    rw [map_canonical_product left, map_canonical_product left']
    exact (perm_product alikeLeft alikeRight).map canonical
  | false =>
    show ((left ++ right).map canonical).Perm ((left' ++ right').map canonical)
    rw [List.map_append, List.map_append]
    exact alikeLeft.append alikeRight

/-- A product with its factors swapped has the same terms, up to their order and the order of
their atoms. -/
theorem alike_product_comm (left right : List Term) :
    Alike (product left right) (product right left) := by
  induction left with
  | nil => simp [Alike, product]
  | cons l left ih =>
    have first : ((product [l] right).map canonical) = right.map fun r => (r ++ l).canonical := by
      simp [product, canonical_append_comm l]
    have second : (product right (l :: left)).map canonical =
        right.flatMap fun r => (r ++ l).canonical :: left.map fun l => (r ++ l).canonical := by
      simp [product, List.map_flatMap, Function.comp_def]
    have rest : (product right left).map canonical =
        right.flatMap fun r => left.map fun l => (r ++ l).canonical := by
      simp [product, List.map_flatMap, Function.comp_def]
    show ((product ([l] ++ left) right).map canonical).Perm _
    rw [product_append, List.map_append, first, second]
    refine (ih.append_left _).trans ?_
    rw [rest]
    exact List.map_append_flatMap_perm right _ _

theorem alike_join_comm (isProduct : Bool) (left right : List Term) :
    Alike (join isProduct left right) (join isProduct right left) := by
  cases isProduct with
  | true => exact alike_product_comm left right
  | false => exact List.perm_append_comm.map canonical

end Term

open Term in
/-- Rearranging a condition rearranges its terms, and those of its negation. -/
theorem Rearranged.alike_terms {a b : Condition} (h : Rearranged a b) (positive : Bool) :
    Alike (a.terms positive) (b.terms positive) := by
  induction h generalizing positive with
  | refl => exact .refl _
  | symm _ ih => exact (ih positive).symm
  | trans _ _ ih ih' => exact (ih positive).trans (ih' positive)
  | swapAnd a b =>
    rw [Condition.terms_and, Condition.terms_and]
    exact alike_join_comm _ _ _
  | swapOr a b =>
    rw [Condition.terms_or, Condition.terms_or]
    exact alike_join_comm _ _ _
  | groupAnd a b c =>
    rw [Condition.terms_and, Condition.terms_and, join_assoc, Condition.terms_and,
      Condition.terms_and]
    exact .refl _
  | groupOr a b c =>
    rw [Condition.terms_or, Condition.terms_or, join_assoc, Condition.terms_or,
      Condition.terms_or]
    exact .refl _
  | not _ ih => exact ih (!positive)
  | and _ _ ih ih' =>
    rw [Condition.terms_and, Condition.terms_and]
    exact alike_join (ih positive) (ih' positive)
  | or _ _ ih ih' =>
    rw [Condition.terms_or, Condition.terms_or]
    exact alike_join (ih positive) (ih' positive)

/-- Rearranging a condition rearranges the AND-paths of its normal form. -/
theorem Rearranged.normalPaths_perm {a b : Condition} (h : Rearranged a b) :
    a.normalPaths.Perm b.normalPaths := by
  rw [a.normalPaths_eq, b.normalPaths_eq]
  exact h.alike_terms true

end LiteralLogic
