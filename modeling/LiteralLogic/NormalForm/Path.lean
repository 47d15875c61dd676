import LiteralLogic.Ascending
import LiteralLogic.NormalForm
import LiteralLogic.SyntaxError

/-!
# AND-paths

An AND-path is a term in canonical order: positive atoms before negated ones, each
kind by text and then by case flag, and no atom twice.  Terms that say the same
give the same path, whatever the order in which they were written.
-/

namespace LiteralLogic

/-- Negation, text and case flag, in this order of weight. -/
def Atom.compare : Atom → Atom → Ordering :=
  compareLex (compareOn Atom.negated)
    (compareLex (compareOn (·.literal.text)) (compareOn (·.literal.caseInsensitive)))

instance : Std.TransCmp Atom.compare :=
  inferInstanceAs (Std.TransCmp (compareLex _ (compareLex _ _)))

instance : Std.LawfulEqCmp Atom.compare where
  eq_of_compare {a b} h := by
    obtain ⟨⟨text, flag⟩, negated⟩ := a
    obtain ⟨⟨text', flag'⟩, negated'⟩ := b
    simp only [Atom.compare, compareLex_eq_eq, compareOn, Std.compare_eq_iff_eq] at h
    simp [h]

/-- A term in canonical order, without repeated atoms. -/
def Term.canonical (term : Term) : Term :=
  ascending Atom.compare term

/-- Whether a term has no positive atom. -/
def Term.isNegative (term : Term) : Bool :=
  term.all Atom.negated

/-- The canonical AND-paths of a condition in the order of its operands.  A
negation above something other than a literal is refused; an OR below an AND is
multiplied out. -/
def Condition.andPaths (condition : Condition) : Except ConditionError (List Term) :=
  let expansion := condition.expand
  if expansion.pushedNegation then .error .notNormalized
  else .ok (expansion.terms.map Term.canonical)

end LiteralLogic
