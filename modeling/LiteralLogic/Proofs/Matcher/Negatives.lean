import LiteralLogic.Proofs.Matcher
import LiteralLogic.Proofs.NormalForm.Terms
import Mathlib.Algebra.Ring.Parity

/-!
# Conditions that only ask for absent literals

A matcher lists the conditions none of whose AND-paths has a positive atom.  Multiplying
out neither loses a literal nor changes its sign, so these are the conditions all of
whose literals stand under an odd number of negations, as they were read.

`Compilation.ListsNegatives` is what compiling keeps true of the list.
-/

namespace LiteralLogic

/-- Every literal of the condition stands under an odd number of negations. -/
def Condition.IsNegative (condition : Condition) : Prop :=
  ∀ leaf ∈ condition.leaves 0, Odd leaf.2

theorem Condition.isNegative_iff (condition : Condition) :
    condition.IsNegative ↔
      (!condition.normalPaths.isEmpty && condition.normalPaths.all Term.isNegative) = true := by
  simp only [IsNegative, Nat.odd_iff, normalPaths_all_isNegative_iff]

namespace Compilation

/-- The negative conditions are listed by their places, latest first. -/
structure ListsNegatives (compilation : Compilation) : Prop where
  descending : compilation.negatives.Pairwise (· > ·)
  mem_iff : ∀ index, index ∈ compilation.negatives ↔
    ∃ condition, compilation.conditions[index]? = some (some condition) ∧ condition.IsNegative

theorem listsNegatives_start : start.ListsNegatives where
  descending := .nil
  mem_iff index := by simp [start]

theorem ListsNegatives.lt_size {compilation : Compilation} (h : compilation.ListsNegatives)
    {index : Nat} (mem : index ∈ compilation.negatives) : index < compilation.conditions.size := by
  rcases (h.mem_iff index).mp mem with ⟨condition, known, -⟩
  exact (Array.getElem?_eq_some_iff.mp known).choose

/-- Behind the conditions so far there is only the one that is put there. -/
theorem exists_push_iff {conditions : Array (Option Condition)} {entry : Option Condition}
    {index : Nat} {P : Condition → Prop} :
    (∃ condition, (conditions.push entry)[index]? = some (some condition) ∧ P condition) ↔
      (∃ condition, conditions[index]? = some (some condition) ∧ P condition) ∨
        (index = conditions.size ∧ ∃ condition, entry = some condition ∧ P condition) := by
  rw [Array.getElem?_push]
  split
  · rename_i last
    subst last
    simp
  · rename_i other
    simp [other]

theorem ListsNegatives.addEmpty {compilation : Compilation} (h : compilation.ListsNegatives) :
    compilation.addEmpty.ListsNegatives where
  descending := h.descending
  mem_iff index := by
    rw [Compilation.addEmpty, exists_push_iff, ← h.mem_iff index]
    simp

theorem ListsNegatives.addCondition {compilation : Compilation} (h : compilation.ListsNegatives)
    (condition : Condition) :
    (compilation.addCondition condition condition.normalPaths).ListsNegatives := by
  have below : ∀ index ∈ compilation.negatives, index < compilation.conditions.size :=
    fun index mem => h.lt_size mem
  obtain ⟨conditions, registry, tree, negatives, empty, andPaths⟩ := compilation
  obtain ⟨descending, mem_iff⟩ := h
  by_cases negative : condition.IsNegative
  · have check := condition.isNegative_iff.mp negative
    constructor
    · simp only [Compilation.addCondition, check, if_true, List.pairwise_cons]
      exact ⟨below, descending⟩
    · intro index
      simp only [Compilation.addCondition, check, if_true, List.mem_cons, exists_push_iff,
        Option.some.injEq, exists_eq_left', negative, and_true]
      rw [mem_iff, or_comm]
  · have check := Bool.eq_false_iff.mpr (mt condition.isNegative_iff.mpr negative)
    constructor
    · simp only [Compilation.addCondition, check, Bool.false_eq_true, if_false]
      exact descending
    · intro index
      simp only [Compilation.addCondition, check, Bool.false_eq_true, if_false, exists_push_iff,
        Option.some.injEq, exists_eq_left', negative, and_false, or_false]
      exact mem_iff index

end Compilation

namespace Matcher

theorem exists_listsNegatives {folding : Folding} {texts : List String} {matcher : Matcher}
    (h : compile folding texts = .ok matcher) :
    ∃ compilation : Compilation, compilation.Compiles texts ∧ compilation.ListsNegatives ∧
      matcher = compilation.finish folding :=
  compile_induction (motive := fun _ compilation => compilation.ListsNegatives)
    Compilation.listsNegatives_start (fun _ _ before => before.addEmpty)
    (fun _ _ _ condition _ before => before.addCondition condition) h

/-- A matcher lists, in ascending order, the conditions in which every literal stands under an
odd number of negations, as they were read; empty texts are never listed. -/
theorem mem_negatives_iff {folding : Folding} {texts : List String} {matcher : Matcher}
    (compiled : compile folding texts = .ok matcher) :
    matcher.negatives.Pairwise (· < ·) ∧
      (∀ index, index ∈ matcher.negatives ↔
        ∃ text condition, texts[index]? = some text ∧ text ≠ "" ∧
          Condition.parse text = .ok condition ∧ ∀ leaf ∈ condition.leaves 0, Odd leaf.2) ∧
      ∀ index, index ∈ matcher.negatives ↔
        ∃ condition, matcher.condition? index = some condition ∧
          ∀ leaf ∈ condition.leaves 0, Odd leaf.2 := by
  rcases exists_listsNegatives compiled with ⟨compilation, compiles, lists, rfl⟩
  have listed : ∀ index, index ∈ (compilation.finish folding).negatives ↔
      ∃ condition, compilation.conditions.toList[index]? = some (some condition) ∧
        condition.IsNegative := by
    intro index
    rw [Array.getElem?_toList, ← lists.mem_iff index]
    exact List.mem_reverse
  refine ⟨List.pairwise_reverse.mpr lists.descending, fun index => ?_, fun index => ?_⟩
  · simp only [listed, compiles.condition_iff]
    constructor
    · intro found
      rcases found with ⟨condition, ⟨text, place, nonempty, read⟩, negative⟩
      exact ⟨text, condition, place, nonempty, read, negative⟩
    · intro found
      rcases found with ⟨text, condition, place, nonempty, read, negative⟩
      exact ⟨condition, ⟨text, place, nonempty, read⟩, negative⟩
  · rw [listed]
    simp only [condition?_finish]
    rfl

/-- A negated disjunction, a disjunction with a positive operand, and an empty text. -/
theorem mem_negatives_and_not : ∃ matcher,
    compile .unicode ["NOT (\"a\" OR NOT (NOT \"b\"))", "NOT \"a\" OR \"b\"", ""] = .ok matcher ∧
      0 ∈ matcher.negatives ∧ 1 ∉ matcher.negatives ∧ 2 ∉ matcher.negatives := by
  have read : Condition.parse "NOT (\"a\" OR NOT (NOT \"b\"))" =
      .ok (.not (.or (.leaf ⟨"a", false⟩) (.not (.not (.leaf ⟨"b", false⟩))))) := rfl
  have read' : Condition.parse "NOT \"a\" OR \"b\"" =
      .ok (.or (.not (.leaf ⟨"a", false⟩)) (.leaf ⟨"b", false⟩)) := rfl
  have reads : ∀ text ∈ ["NOT (\"a\" OR NOT (NOT \"b\"))", "NOT \"a\" OR \"b\"", ""],
      ∃ condition, ReadsAs text condition := by
    simp only [List.forall_mem_cons]
    exact ⟨⟨some _, by decide, read⟩, ⟨some _, by decide, read'⟩, ⟨none, rfl⟩, by simp⟩
  rcases exists_compile .unicode reads with ⟨matcher, compiled⟩
  have listed := (mem_negatives_iff compiled).2.1
  refine ⟨matcher, compiled, ?_, ?_, ?_⟩
  · exact (listed 0).mpr ⟨_, _, rfl, by decide, read, by decide⟩
  · intro mem
    rcases (listed 1).mp mem with ⟨_, _, place, -, parsed, negative⟩
    cases place
    rw [read'] at parsed
    cases parsed
    revert negative
    decide
  · intro mem
    rcases (listed 2).mp mem with ⟨_, _, place, nonempty, -, -⟩
    cases place
    exact nonempty rfl

end Matcher

end LiteralLogic
