import LiteralLogic.Condition.Evaluation
import LiteralLogic.Proofs.Haystack
import Mathlib.Logic.Relation

/-!
# The value of an evaluation

An evaluation keeps a single truth value, whichever parts of the condition it has begun and
not finished.  It runs in steps, each of which takes up the first task
(`evaluateFrom_cons`), and the tasks behind the first one are not looked at.

A right operand waits above the tasks that stood behind its whole.  What is still to be done
before it is taken up gives the truth of the left operand (`exists_left_of_reaches`), so
when nothing is left to be done before it, the value is this truth.  Whether the right
operand is then visited or left out, the value ends as the truth of the whole.
-/

namespace LiteralLogic

/-! ## Literals -/

/-- The text of a literal is a part of the input; both are folded for a literal without case. -/
def Literal.OccursIn (folding : Folding) (input : String) (literal : Literal) : Prop :=
  if literal.caseInsensitive then
    (folding.fold literal.text).toList <:+: (folding.fold input).toList
  else literal.text.toList <:+: input.toList

instance (folding : Folding) (input : String) (literal : Literal) :
    Decidable (literal.OccursIn folding input) :=
  inferInstanceAs (Decidable (if literal.caseInsensitive then _ else _))

/-- The truth of literals on an input: those are true that occur in it. -/
def Literal.truthIn (folding : Folding) (input : String) (literal : Literal) : Bool :=
  decide (literal.OccursIn folding input)

theorem Haystack.contains_ofText (folding : Folding) (input : String) :
    (ofText folding input).contains = Literal.truthIn folding input := by
  funext ⟨text, caseInsensitive⟩
  rw [Bool.eq_iff_iff, Literal.truthIn, decide_eq_true_iff]
  cases caseInsensitive with
  | false => exact contains_exact_iff text
  | true =>
    rw [contains_ignoringCase_iff, ← folding.toList_fold, ← folding.toList_fold]
    rfl

/-! ## Steps -/

/-- An evaluation at one moment: its value, and the tasks that are left. -/
structure EvaluationState where
  value : Bool
  tasks : List EvaluationTask

namespace EvaluationTask

/-- The tasks that a task is replaced by when it is taken up. -/
def replacement (value : Bool) : EvaluationTask → List EvaluationTask
  | .visit (.leaf _) => []
  | .visit (.not operand) => [.visit operand, .negate]
  | .visit (.and first second) => [.visit first, .right true second]
  | .visit (.or first second) => [.visit first, .right false second]
  | .right undecided operand => if value = undecided then [.visit operand] else []
  | .negate => []

/-- The value when a task has been taken up. -/
def valueAfter (truth : Literal → Bool) (value : Bool) : EvaluationTask → Bool
  | .visit (.leaf literal) => truth literal
  | .visit (.not _) | .visit (.and _ _) | .visit (.or _ _) | .right _ _ => value
  | .negate => !value

end EvaluationTask

variable {truth : Literal → Bool}

theorem evaluateFrom_cons (truth : Literal → Bool) (value : Bool) (task : EvaluationTask)
    (tasks : List EvaluationTask) :
    evaluateFrom truth value (task :: tasks) =
      evaluateFrom truth (task.valueAfter truth value) (task.replacement value ++ tasks) := by
  cases task with
  | visit condition => cases condition <;> rw [evaluateFrom] <;> rfl
  | right undecided operand =>
    rw [evaluateFrom, EvaluationTask.replacement, EvaluationTask.valueAfter]
    split <;> rfl
  | negate => rw [evaluateFrom]; rfl

/-- One step of an evaluation takes up the first task. -/
inductive EvaluationStep (truth : Literal → Bool) : EvaluationState → EvaluationState → Prop
  | takeUp (value : Bool) (task : EvaluationTask) (tasks : List EvaluationTask) :
    EvaluationStep truth ⟨value, task :: tasks⟩
      ⟨task.valueAfter truth value, task.replacement value ++ tasks⟩

/-- An evaluation comes from one state to another in any number of steps. -/
abbrev EvaluationReaches (truth : Literal → Bool) : EvaluationState → EvaluationState → Prop :=
  Relation.ReflTransGen (EvaluationStep truth)

/-- Visiting a condition takes finitely many steps and leaves its truth as the value. -/
theorem reaches_holds (truth : Literal → Bool) (condition : Condition) (value : Bool)
    (tasks : List EvaluationTask) :
    EvaluationReaches truth ⟨value, .visit condition :: tasks⟩ ⟨condition.holds truth, tasks⟩ := by
  induction condition generalizing value tasks with
  | leaf literal => exact .single (.takeUp _ _ _)
  | not operand ih => exact .head (.takeUp _ _ _) ((ih _ _).tail (.takeUp _ _ _))
  | and left right ihl ihr =>
    refine .head (.takeUp _ _ _) ((ihl _ _).trans (.head (.takeUp _ _ _) ?_))
    rw [Condition.holds]
    cases left.holds truth with
    | true => exact ihr _ _
    | false => exact .refl
  | or left right ihl ihr =>
    refine .head (.takeUp _ _ _) ((ihl _ _).trans (.head (.takeUp _ _ _) ?_))
    rw [Condition.holds]
    cases left.holds truth with
    | true => exact .refl
    | false => exact ihr _ _

/-! ## Right operands -/

/-- The condition of which the right operand counts only if the left one has the truth
`undecided`. -/
def Condition.joined (undecided : Bool) (left right : Condition) : Condition :=
  if undecided then .and left right else .or left right

theorem Condition.holds_joined (truth : Literal → Bool) (undecided : Bool)
    (left right : Condition) :
    (joined undecided left right).holds truth =
      if left.holds truth = undecided then right.holds truth else left.holds truth := by
  cases undecided <;> cases h : left.holds truth <;> simp [joined, holds, h]

/-- A right operand that waits has been waiting behind the task that was taken up, or was put
there in its place, behind the left operand. -/
theorem EvaluationTask.waits_cases {value undecided : Bool} {task : EvaluationTask}
    {right : Condition} {tasks above below : List EvaluationTask}
    (waits : task.replacement value ++ tasks = above ++ .right undecided right :: below) :
    (∃ rest, above = task.replacement value ++ rest ∧
      tasks = rest ++ .right undecided right :: below) ∨
    ∃ left, task = .visit (.joined undecided left right) ∧ above = [.visit left] ∧
      below = tasks := by
  rcases List.append_eq_append_iff.mp waits with ⟨rest, parts, behind⟩ | ⟨pushed, parts, behind⟩
  · exact .inl ⟨rest, parts, behind⟩
  rcases pushed with _ | ⟨first, pushed⟩
  · exact .inl ⟨[], by rw [parts]; simp, behind.symm⟩
  rcases List.cons.inj behind with ⟨rfl, rfl⟩
  right
  cases task with
  | negate => simp [replacement] at parts
  | right _ operand =>
    rw [replacement] at parts
    split at parts
    · rcases above with _ | ⟨first, above⟩ <;> simp at parts
    · simp at parts
  | visit condition =>
    cases condition with
    | leaf literal => simp [replacement] at parts
    | not operand =>
      rcases above with _ | ⟨first, _ | ⟨second, above⟩⟩ <;> simp [replacement] at parts
    | and left operand | or left operand =>
      rcases above with _ | ⟨first, _ | ⟨second, above⟩⟩
      · cases parts
      · cases parts
        exact ⟨left, rfl, rfl, rfl⟩
      · simp [replacement] at parts

/-- A right operand that waits was put there with its left operand, when their whole was
visited above the same tasks, and what is to be done before it gives the truth of the left
operand. -/
theorem exists_left_of_reaches {condition : Condition} {start : Bool} {state : EvaluationState}
    (reached : EvaluationReaches truth ⟨start, [.visit condition]⟩ state)
    (above : List EvaluationTask) {below : List EvaluationTask} {undecided : Bool}
    {right : Condition} (waits : state.tasks = above ++ .right undecided right :: below) :
    ∃ left before,
      EvaluationReaches truth ⟨start, [.visit condition]⟩
        ⟨before, .visit (.joined undecided left right) :: below⟩ ∧
      EvaluationReaches truth ⟨before, .visit (.joined undecided left right) :: below⟩ state ∧
      evaluateFrom truth state.value above = left.holds truth := by
  induction reached generalizing above with
  | refl => rcases above with _ | ⟨first, above⟩ <;> simp at waits
  | tail reached step ih =>
    rcases step with ⟨value, task, tasks⟩
    rcases EvaluationTask.waits_cases waits with ⟨rest, rfl, rfl⟩ | ⟨left, rfl, rfl, rfl⟩
    · rcases ih (task :: rest) rfl with ⟨left, before, visited, since, worth⟩
      refine ⟨left, before, visited, since.tail (.takeUp _ _ _), ?_⟩
      rw [← worth, evaluateFrom_cons]
    · refine ⟨left, value, reached, .single (.takeUp _ _ _), ?_⟩
      rw [evaluateFrom_visit, evaluateFrom]

/-- When a right operand is taken up, the truth of the whole is that of the operand if it is
visited, and the value if it is left out. -/
theorem reaches_holds_joined (truth : Literal → Bool) (undecided : Bool) (left right : Condition)
    (below : List EvaluationTask) :
    EvaluationReaches truth ⟨left.holds truth, .right undecided right :: below⟩
      ⟨(Condition.joined undecided left right).holds truth, below⟩ := by
  refine .head (.takeUp _ _ _) ?_
  rw [Condition.holds_joined, EvaluationTask.replacement]
  split
  · exact reaches_holds truth right _ below
  · exact .refl

/-- An evaluation ends with the truth of the condition when each literal is true exactly if
it occurs.  Whenever a right operand comes up, the value is the truth of the operand on its
left, whose whole was visited above the same tasks; and the evaluation goes on to the truth
of this whole, which is the value already if the right operand is left out. -/
theorem Condition.evaluate_eq_holds_and_left_value (folding : Folding) (input : String)
    (condition : Condition) :
    condition.evaluate (.ofText folding input) =
        condition.holds (Literal.truthIn folding input) ∧
      EvaluationReaches (Literal.truthIn folding input) ⟨false, [.visit condition]⟩
        ⟨condition.evaluate (.ofText folding input), []⟩ ∧
      ∀ (value undecided : Bool) (right : Condition) (below : List EvaluationTask),
        EvaluationReaches (Literal.truthIn folding input) ⟨false, [.visit condition]⟩
          ⟨value, .right undecided right :: below⟩ →
        ∃ left before,
          EvaluationReaches (Literal.truthIn folding input) ⟨false, [.visit condition]⟩
            ⟨before, .visit (joined undecided left right) :: below⟩ ∧
          EvaluationReaches (Literal.truthIn folding input)
            ⟨before, .visit (joined undecided left right) :: below⟩
            ⟨value, .right undecided right :: below⟩ ∧
          value = left.holds (Literal.truthIn folding input) ∧
          (value ≠ undecided →
            value = (joined undecided left right).holds (Literal.truthIn folding input)) ∧
          EvaluationReaches (Literal.truthIn folding input)
            ⟨value, .right undecided right :: below⟩
            ⟨(joined undecided left right).holds (Literal.truthIn folding input), below⟩ := by
  have ends : condition.evaluate (.ofText folding input) =
      condition.holds (Literal.truthIn folding input) := by
    rw [evaluate_eq, Haystack.contains_ofText]
  refine ⟨ends, ?_, ?_⟩
  · rw [ends]
    exact reaches_holds _ condition false []
  · intro value undecided right below reached
    rcases exists_left_of_reaches reached [] rfl with
      ⟨left, before, visited, since, worth⟩
    rw [evaluateFrom] at worth
    subst worth
    have goesOn := reaches_holds_joined (Literal.truthIn folding input) undecided left right below
    refine ⟨left, before, visited, since, rfl, ?_, goesOn⟩
    intro decided
    rw [holds_joined, if_neg decided]

/-- The left operand of OR is a conjunction that comes out false after its own right operand. -/
theorem Condition.left_value_of_conjunction :
    EvaluationReaches (Literal.truthIn .unicode "c")
        ⟨false, [.visit (.or (.and (.not (.leaf ⟨"a", false⟩)) (.leaf ⟨"b", false⟩))
          (.leaf ⟨"C", true⟩))]⟩
        ⟨false, [.right false (.leaf ⟨"C", true⟩)]⟩ ∧
      ∃ left, left.holds (Literal.truthIn .unicode "c") = false ∧
        EvaluationReaches (Literal.truthIn .unicode "c") ⟨false, [.right false (.leaf ⟨"C", true⟩)]⟩
          ⟨(Condition.or left (.leaf ⟨"C", true⟩)).holds (Literal.truthIn .unicode "c"), []⟩ := by
  have reached : EvaluationReaches (Literal.truthIn .unicode "c")
      ⟨false, [.visit (.or (.and (.not (.leaf ⟨"a", false⟩)) (.leaf ⟨"b", false⟩))
        (.leaf ⟨"C", true⟩))]⟩
      ⟨false, [.right false (.leaf ⟨"C", true⟩)]⟩ := by
    have conjunction := reaches_holds (Literal.truthIn .unicode "c")
      (.and (.not (.leaf ⟨"a", false⟩)) (.leaf ⟨"b", false⟩))
    exact .head (.takeUp _ _ _) (conjunction _ _)
  rcases (evaluate_eq_holds_and_left_value .unicode "c" _).2.2 _ _ _ _ reached with
    ⟨left, -, -, -, value, -, goesOn⟩
  exact ⟨reached, left, value.symm, goesOn⟩

end LiteralLogic
