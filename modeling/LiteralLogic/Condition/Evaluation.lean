import LiteralLogic.Haystack

/-!
# Evaluating a condition on an input

A condition is evaluated with a stack of tasks and one truth value, the value of
the part that was evaluated last.  The right operand of AND and OR is left out
where the left operand decides.

`evaluateFrom_visit` says that visiting a condition leaves its truth as the value,
whatever the value was before; so the value is that of the left operand whenever a
right operand is considered, and leaving operands out changes nothing.
-/

namespace LiteralLogic

/-- What is still to be done: evaluate a condition; evaluate a right operand
unless the value of the left one differs from `undecided`; negate the value. -/
inductive EvaluationTask where
  | visit (condition : Condition)
  | right (undecided : Bool) (operand : Condition)
  | negate

/-- A bound on the work that a task stands for. -/
def EvaluationTask.weight : EvaluationTask → Nat
  | .visit condition => 2 * condition.size
  | .right _ operand => 2 * operand.size + 1
  | .negate => 1

/-- A bound on the work that a list of tasks stands for. -/
def EvaluationTask.totalWeight : List EvaluationTask → Nat
  | [] => 0
  | task :: tasks => task.weight + totalWeight tasks

/-- Works off the tasks when `truth` decides the literals and `value` is the truth
of the part that was evaluated last. -/
def evaluateFrom (truth : Literal → Bool) (value : Bool) : List EvaluationTask → Bool
  | [] => value
  | .visit (.leaf literal) :: tasks => evaluateFrom truth (truth literal) tasks
  | .visit (.not operand) :: tasks => evaluateFrom truth value (.visit operand :: .negate :: tasks)
  | .visit (.and left right) :: tasks =>
    evaluateFrom truth value (.visit left :: .right true right :: tasks)
  | .visit (.or left right) :: tasks =>
    evaluateFrom truth value (.visit left :: .right false right :: tasks)
  | .right undecided operand :: tasks =>
    if value = undecided then evaluateFrom truth value (.visit operand :: tasks)
    else evaluateFrom truth value tasks
  | .negate :: tasks => evaluateFrom truth (!value) tasks
termination_by tasks => EvaluationTask.totalWeight tasks
decreasing_by
  all_goals simp only [EvaluationTask.totalWeight, EvaluationTask.weight, Condition.size]; omega

/-- Whether an input satisfies a condition. -/
def Condition.evaluate (condition : Condition) (haystack : Haystack) : Bool :=
  evaluateFrom haystack.contains false [.visit condition]

theorem evaluateFrom_visit (truth : Literal → Bool) (condition : Condition) (value : Bool)
    (tasks : List EvaluationTask) :
    evaluateFrom truth value (.visit condition :: tasks) =
      evaluateFrom truth (condition.holds truth) tasks := by
  induction condition generalizing value tasks with
  | leaf literal => rw [evaluateFrom, Condition.holds]
  | not operand ih => rw [evaluateFrom, ih, evaluateFrom, Condition.holds]
  | and left right ihl ihr | or left right ihl ihr =>
    rw [evaluateFrom, ihl, evaluateFrom, ihr, Condition.holds]
    cases left.holds truth <;> simp

theorem Condition.evaluate_eq (condition : Condition) (haystack : Haystack) :
    condition.evaluate haystack = condition.holds haystack.contains := by
  rw [Condition.evaluate, evaluateFrom_visit, evaluateFrom]

end LiteralLogic
