import LiteralLogic.NormalForm.Term

/-!
# Expanding a condition without recursion

The terms of a condition are computed with a stack of tasks and a stack of results,
so that a chain as long as the text costs no depth of calls.  A conjunction grows
in place when its right operand has a single term.

`expandFrom_visit` says what visiting a condition does: it puts the terms of the
condition on the stack of results and goes on with the other tasks.  Hence
`Condition.expand_eq`: the result is `Condition.terms`, together with the answer
to whether a negation had to be pushed below something other than a literal.
-/

namespace LiteralLogic

/-- Terms under construction. -/
abbrev TermArray := Array (Array Atom)

namespace TermArray

/-- The terms as lists. -/
def terms (array : TermArray) : List Term :=
  array.toList.map Array.toList

/-- Every left term extended by every right term, the left terms first. -/
def multiply (left right : TermArray) : TermArray :=
  match right.toList with
  | [single] => left.map (· ++ single)
  | _ => left.flatMap fun l => right.map (l ++ ·)

theorem terms_append (left right : TermArray) :
    terms (left ++ right) = left.terms ++ right.terms := by
  simp [terms]

theorem terms_multiply (left right : TermArray) :
    (left.multiply right).terms = Term.product left.terms right.terms := by
  unfold multiply
  split
  · rename_i single h
    simp only [terms, Term.product, h, Array.toList_map, List.map_map, List.map_cons, List.map_nil,
      List.flatMap_map]
    rw [List.map_eq_flatMap]
    simp
  · simp [terms, Term.product, List.flatMap_map, List.map_flatMap, Function.comp_def]

end TermArray

/-- What is still to be done: expand a condition or its negation, or join the two
latest results, by multiplication or one behind the other. -/
inductive ExpansionTask where
  | visit (condition : Condition) (positive : Bool)
  | join (product : Bool)

/-- Whether a condition is a literal. -/
def Condition.isLeaf : Condition → Bool
  | .leaf _ => true
  | _ => false

/-- A bound on the work that a task stands for. -/
def ExpansionTask.weight : ExpansionTask → Nat
  | .visit condition _ => 2 * condition.size
  | .join _ => 1

/-- A bound on the work that a list of tasks stands for. -/
def ExpansionTask.totalWeight : List ExpansionTask → Nat
  | [] => 0
  | task :: tasks => task.weight + totalWeight tasks

/-- Works off the tasks.  `results` holds the terms of the conditions that have
been expanded, latest first; `pushed` says whether a negation of something other
than a literal has been met.  There is no outcome if two results to join are
missing. -/
def expandFrom (results : List TermArray) (pushed : Bool) :
    List ExpansionTask → Option (List TermArray × Bool)
  | [] => some (results, pushed)
  | .visit (.leaf literal) positive :: tasks =>
    expandFrom (#[#[⟨literal, !positive⟩]] :: results) pushed tasks
  | .visit (.not operand) positive :: tasks =>
    expandFrom results (pushed || !operand.isLeaf) (.visit operand (!positive) :: tasks)
  | .visit (.and left right) positive :: tasks =>
    expandFrom results pushed
      (.visit left positive :: .visit right positive :: .join positive :: tasks)
  | .visit (.or left right) positive :: tasks =>
    expandFrom results pushed
      (.visit left positive :: .visit right positive :: .join (!positive) :: tasks)
  | .join product :: tasks =>
    match results with
    | right :: left :: results =>
      let joined := if product then left.multiply right else left ++ right
      expandFrom (joined :: results) pushed tasks
    | _ => none
termination_by tasks => ExpansionTask.totalWeight tasks
decreasing_by
  all_goals simp only [ExpansionTask.totalWeight, ExpansionTask.weight, Condition.size]; omega

/-- The terms of a condition, and whether a negation stood above something other
than a literal. -/
structure Expansion where
  terms : List Term
  pushedNegation : Bool

/-- Expands a condition into its terms. -/
def Condition.expand (condition : Condition) : Expansion :=
  match expandFrom [] false [.visit condition true] with
  | some (result :: _, pushed) => ⟨result.terms, pushed⟩
  | some ([], pushed) => ⟨[], pushed⟩
  | none => ⟨[], false⟩

/-- Whether a negation in the condition stands above something other than a
literal. -/
def Condition.negatesCompound : Condition → Bool
  | .leaf _ => false
  | .not operand => !operand.isLeaf || operand.negatesCompound
  | .and left right => left.negatesCompound || right.negatesCompound
  | .or left right => left.negatesCompound || right.negatesCompound

theorem expandFrom_visit (condition : Condition) (positive : Bool) (results : List TermArray)
    (pushed : Bool) (tasks : List ExpansionTask) :
    ∃ result : TermArray, result.terms = condition.terms positive ∧
      expandFrom results pushed (.visit condition positive :: tasks) =
        expandFrom (result :: results) (pushed || condition.negatesCompound) tasks := by
  induction condition generalizing positive results pushed tasks with
  | leaf literal =>
    refine ⟨#[#[⟨literal, !positive⟩]], by simp [TermArray.terms, Condition.terms], ?_⟩
    simp [expandFrom, Condition.negatesCompound]
  | not operand ih =>
    obtain ⟨result, hterms, hrun⟩ := ih (!positive) results (pushed || !operand.isLeaf) tasks
    refine ⟨result, hterms, ?_⟩
    rw [expandFrom, hrun, Condition.negatesCompound, Bool.or_assoc]
  | and left right ihl ihr =>
    obtain ⟨l, hl, runl⟩ := ihl positive results pushed
      (.visit right positive :: .join positive :: tasks)
    obtain ⟨r, hr, runr⟩ := ihr positive (l :: results) (pushed || left.negatesCompound)
      (.join positive :: tasks)
    refine ⟨if positive then l.multiply r else l ++ r, ?_, ?_⟩
    · cases positive <;>
        simp [Condition.terms, TermArray.terms_append, TermArray.terms_multiply, hl, hr]
    · rw [expandFrom, runl, runr, expandFrom, Condition.negatesCompound, Bool.or_assoc]
  | or left right ihl ihr =>
    obtain ⟨l, hl, runl⟩ := ihl positive results pushed
      (.visit right positive :: .join (!positive) :: tasks)
    obtain ⟨r, hr, runr⟩ := ihr positive (l :: results) (pushed || left.negatesCompound)
      (.join (!positive) :: tasks)
    refine ⟨if !positive then l.multiply r else l ++ r, ?_, ?_⟩
    · cases positive <;>
        simp [Condition.terms, TermArray.terms_append, TermArray.terms_multiply, hl, hr]
    · rw [expandFrom, runl, runr, expandFrom, Condition.negatesCompound, Bool.or_assoc]

theorem Condition.expand_eq (condition : Condition) :
    condition.expand = ⟨condition.terms true, condition.negatesCompound⟩ := by
  obtain ⟨result, hterms, hrun⟩ := expandFrom_visit condition true [] false []
  rw [Condition.expand, hrun]
  simp [expandFrom, hterms]

end LiteralLogic
