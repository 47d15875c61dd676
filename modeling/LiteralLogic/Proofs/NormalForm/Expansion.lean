import LiteralLogic.NormalForm.Expansion
import Mathlib.Logic.Relation

/-!
# The two stacks of an expansion

An expansion runs in steps, each of which takes up the first task.  A task to join is put
behind the visits of both operands, and what is still to be done before it puts exactly the
expansions of the operands on the results that were there when the whole was visited
(`exists_operands_of_reaches`).  So both operands are there whenever results are joined, no
task is ever stuck, and a single result is left at the end.

Every result is the expansion of some condition (`exists_terms_of_reaches`), hence neither
it nor one of its terms is empty.
-/

namespace LiteralLogic

/-! ## Products -/

/-- Growing the left terms in place by a single right term is the general product, too. -/
theorem TermArray.multiply_eq_flatMap (left right : TermArray) :
    left.multiply right = left.flatMap fun l => right.map (l ++ ·) := by
  unfold multiply
  split
  · rename_i single only
    have right_eq : right = #[single] := Array.toList_inj.mp only
    rw [right_eq, Array.map_eq_flatMap]
    simp
  · rfl

/-- Joined results hold the product of their terms, or the terms one behind the other. -/
theorem TermArray.terms_join (product : Bool) (left right : TermArray) :
    terms (if product then left.multiply right else left ++ right) =
      if product then Term.product left.terms right.terms else left.terms ++ right.terms := by
  cases product
  · exact terms_append left right
  · exact terms_multiply left right

namespace Condition

/-- The condition whose operands are joined by multiplication, or one behind the other, when
it is expanded under a sign: AND is multiplied if positive, and OR if negated. -/
def ofJoin (product positive : Bool) (left right : Condition) : Condition :=
  if product = positive then .and left right else .or left right

theorem ofJoin_self (positive : Bool) (left right : Condition) :
    ofJoin positive positive left right = .and left right :=
  if_pos rfl

theorem ofJoin_not (positive : Bool) (left right : Condition) :
    ofJoin (!positive) positive left right = .or left right := by
  cases positive <;> rfl

theorem terms_ofJoin (product positive : Bool) (left right : Condition) :
    (ofJoin product positive left right).terms positive =
      if product then Term.product (left.terms positive) (right.terms positive)
      else left.terms positive ++ right.terms positive := by
  cases product <;> cases positive <;> rfl

end Condition

/-! ## Steps -/

/-- An expansion at one moment: its results, latest first, whether a negation has been
pushed below something other than a literal, and the tasks that are left. -/
structure ExpansionState where
  results : List TermArray
  pushed : Bool
  tasks : List ExpansionTask

namespace ExpansionState

/-- The whole condition is still to be visited. -/
def start (condition : Condition) : ExpansionState :=
  ⟨[], false, [.visit condition true]⟩

/-- What comes out when the tasks are worked off; none if results to join are missing. -/
def outcome (state : ExpansionState) : Option (List TermArray × Bool) :=
  expandFrom state.results state.pushed state.tasks

end ExpansionState

/-- One step of an expansion takes up the first task.  There is none if the task is to join
results and there are less than two of them. -/
inductive ExpansionStep : ExpansionState → ExpansionState → Prop
  | leaf (results pushed literal positive tasks) :
    ExpansionStep ⟨results, pushed, .visit (.leaf literal) positive :: tasks⟩
      ⟨#[#[⟨literal, !positive⟩]] :: results, pushed, tasks⟩
  | not (results pushed operand positive tasks) :
    ExpansionStep ⟨results, pushed, .visit (.not operand) positive :: tasks⟩
      ⟨results, pushed || !operand.isLeaf, .visit operand (!positive) :: tasks⟩
  | and (results pushed left right positive tasks) :
    ExpansionStep ⟨results, pushed, .visit (.and left right) positive :: tasks⟩
      ⟨results, pushed, .visit left positive :: .visit right positive :: .join positive :: tasks⟩
  | or (results pushed left right positive tasks) :
    ExpansionStep ⟨results, pushed, .visit (.or left right) positive :: tasks⟩
      ⟨results, pushed,
        .visit left positive :: .visit right positive :: .join (!positive) :: tasks⟩
  | join (right left results pushed product tasks) :
    ExpansionStep ⟨right :: left :: results, pushed, .join product :: tasks⟩
      ⟨(if product then left.multiply right else left ++ right) :: results, pushed, tasks⟩

/-- An expansion comes from one state to another in any number of steps. -/
abbrev ExpansionReaches : ExpansionState → ExpansionState → Prop :=
  Relation.ReflTransGen ExpansionStep

theorem ExpansionStep.outcome_eq {state next : ExpansionState} (step : ExpansionStep state next) :
    state.outcome = next.outcome := by
  cases step <;> rw [ExpansionState.outcome, expandFrom] <;> rfl

theorem outcome_eq_of_reaches {state next : ExpansionState}
    (reached : ExpansionReaches state next) : state.outcome = next.outcome := by
  induction reached with
  | refl => rfl
  | tail _ step ih => rw [ih, step.outcome_eq]

/-- The outcome is what the steps end with. -/
theorem outcome_eq_some_iff {state : ExpansionState} {results : List TermArray} {pushed : Bool} :
    state.outcome = some (results, pushed) ↔ ExpansionReaches state ⟨results, pushed, []⟩ := by
  constructor
  · intro ends
    obtain ⟨before, pushedBefore, tasks⟩ := state
    rw [ExpansionState.outcome] at ends
    fun_induction expandFrom before pushedBefore tasks with
    | case1 =>
      cases ends
      exact .refl
    | case2 _ _ _ _ _ ih => exact .head (.leaf ..) (ih ends)
    | case3 _ _ _ _ _ ih => exact .head (.not ..) (ih ends)
    | case4 _ _ _ _ _ _ ih => exact .head (.and ..) (ih ends)
    | case5 _ _ _ _ _ _ ih => exact .head (.or ..) (ih ends)
    | case6 _ _ _ _ _ _ _ ih => exact .head (.join ..) (ih ends)
    | case7 => cases ends
  · intro reached
    rw [outcome_eq_of_reaches reached, ExpansionState.outcome, expandFrom]

/-! ## Operands -/

/-- A task to join that waits has been waiting before the step, and the step has not changed
what the tasks before it come to; or the step has put it behind the visits of its operands. -/
theorem ExpansionStep.waits_cases {state next : ExpansionState} (step : ExpansionStep state next)
    {above below : List ExpansionTask} {product : Bool}
    (waits : next.tasks = above ++ .join product :: below) :
    (∃ earlier, state.tasks = earlier ++ .join product :: below ∧
      expandFrom state.results state.pushed earlier =
        expandFrom next.results next.pushed above) ∨
    ∃ left right positive,
      state = ⟨next.results, next.pushed,
        .visit (.ofJoin product positive left right) positive :: below⟩ ∧
      above = [.visit left positive, .visit right positive] := by
  cases step with
  | leaf results pushed literal positive tasks =>
    cases waits
    exact .inl ⟨.visit (.leaf literal) positive :: above, rfl, by rw [expandFrom]⟩
  | join right left results pushed joins tasks =>
    cases waits
    exact .inl ⟨.join joins :: above, rfl, by rw [expandFrom]⟩
  | not results pushed operand positive tasks =>
    rcases above with _ | ⟨first, above⟩
    · cases waits
    · cases waits
      exact .inl ⟨.visit (.not operand) positive :: above, rfl, by rw [expandFrom]⟩
  | and results pushed left right positive tasks =>
    -- the task that waits is the third one that the step has put there, or is behind it
    rcases above with _ | ⟨first, _ | ⟨second, _ | ⟨third, above⟩⟩⟩
    · cases waits
    · cases waits
    · cases waits
      exact .inr ⟨left, right, product, by rw [Condition.ofJoin_self], rfl⟩
    · cases waits
      exact .inl ⟨.visit (.and left right) positive :: above, rfl, by rw [expandFrom]⟩
  | or results pushed left right positive tasks =>
    rcases above with _ | ⟨first, _ | ⟨second, _ | ⟨third, above⟩⟩⟩
    · cases waits
    · cases waits
    · cases waits
      exact .inr ⟨left, right, positive, by rw [Condition.ofJoin_not], rfl⟩
    · cases waits
      exact .inl ⟨.visit (.or left right) positive :: above, rfl, by rw [expandFrom]⟩

/-- A task to join that waits was put there when a whole condition was visited above the same
tasks, and what is to be done before it puts the expansions of the operands of this whole on
the results of that moment. -/
theorem exists_operands_of_reaches {condition : Condition} {state : ExpansionState}
    (reached : ExpansionReaches (.start condition) state) (above : List ExpansionTask)
    {below : List ExpansionTask} {product : Bool}
    (waits : state.tasks = above ++ .join product :: below) :
    ∃ left right positive before pushed,
      ExpansionReaches (.start condition)
        ⟨before, pushed, .visit (.ofJoin product positive left right) positive :: below⟩ ∧
      ExpansionReaches
        ⟨before, pushed, .visit (.ofJoin product positive left right) positive :: below⟩ state ∧
      ∃ l r : TermArray, l.terms = left.terms positive ∧ r.terms = right.terms positive ∧
        expandFrom state.results state.pushed above =
          some (r :: l :: before, pushed || left.negatesCompound || right.negatesCompound) := by
  induction reached generalizing above with
  | refl => rcases above with _ | ⟨first, above⟩ <;> simp [ExpansionState.start] at waits
  | tail reached step ih =>
    rcases step.waits_cases waits with
      ⟨earlier, waiting, same⟩ | ⟨left, right, positive, rfl, rfl⟩
    · obtain ⟨left, right, positive, before, pushed, visited, since, l, r, termsLeft, termsRight,
        comes⟩ := ih earlier waiting
      exact ⟨left, right, positive, before, pushed, visited, since.tail step, l, r, termsLeft,
        termsRight, same ▸ comes⟩
    · refine ⟨left, right, positive, _, _, reached, .single step, ?_⟩
      obtain ⟨l, termsLeft, runLeft⟩ := expandFrom_visit left positive _ _ [.visit right positive]
      obtain ⟨r, termsRight, runRight⟩ := expandFrom_visit right positive _ _ []
      refine ⟨l, r, termsLeft, termsRight, ?_⟩
      rw [runLeft, runRight, expandFrom]

/-- The latest two results are the expansions of the operands of a condition that was visited
above the tasks `below`, and those under them were there at that moment. -/
def HasOperands (condition : Condition) (state : ExpansionState) (product : Bool)
    (below : List ExpansionTask) : Prop :=
  ∃ left right positive before pushed,
    ExpansionReaches (.start condition)
      ⟨before, pushed, .visit (.ofJoin product positive left right) positive :: below⟩ ∧
    ExpansionReaches
      ⟨before, pushed, .visit (.ofJoin product positive left right) positive :: below⟩ state ∧
    ∃ l r : TermArray, l.terms = left.terms positive ∧ r.terms = right.terms positive ∧
      state.results = r :: l :: before

/-- Both operands are expanded when their results are to be joined. -/
theorem hasOperands_of_join {condition : Condition} {state : ExpansionState} {product : Bool}
    {below : List ExpansionTask} (reached : ExpansionReaches (.start condition) state)
    (joins : state.tasks = .join product :: below) : HasOperands condition state product below := by
  obtain ⟨left, right, positive, before, pushed, visited, since, l, r, termsLeft, termsRight,
    comes⟩ := exists_operands_of_reaches reached [] joins
  rw [expandFrom] at comes
  have results : state.results = r :: l :: before := congrArg Prod.fst (Option.some.inj comes)
  exact ⟨left, right, positive, before, pushed, visited, since, l, r, termsLeft, termsRight,
    results⟩

/-! ## Results -/

/-- Every result is the expansion of a condition. -/
theorem exists_terms_of_reaches {condition : Condition} {state : ExpansionState}
    (reached : ExpansionReaches (.start condition) state) :
    ∀ result ∈ state.results, ∃ part : Condition, result.terms = part.terms true := by
  induction reached with
  | refl => simp [ExpansionState.start]
  | tail reached step ih =>
    cases step with
    | not | and | or => exact ih
    | leaf results pushed literal positive tasks =>
      refine List.forall_mem_cons.mpr ⟨?_, ih⟩
      cases positive with
      | true => exact ⟨.leaf literal, rfl⟩
      | false => exact ⟨.not (.leaf literal), rfl⟩
    | join right left results pushed product tasks =>
      obtain ⟨⟨r, right⟩, ⟨l, left⟩, rest⟩ := by
        simpa only [List.forall_mem_cons] using ih
      refine List.forall_mem_cons.mpr ⟨⟨.ofJoin product true l r, ?_⟩, rest⟩
      rw [TermArray.terms_join, Condition.terms_ofJoin, left, right]

/-- The expansion of a condition holds its terms as the recursion over the condition and its
sign gives them.  From every moment it goes on to a single result, which is the last one, and
no result and no term is ever empty.  When results are to be joined, the latest two are the
expansions of the operands of a condition that was visited above the same tasks, and what is
below them was there at that moment.  Growing in place multiplies like the general product. -/
theorem Condition.expand_eq_terms_and_operands (condition : Condition) :
    condition.expand = ⟨condition.terms true, condition.negatesCompound⟩ ∧
      (∃ result : TermArray, result.terms = condition.terms true ∧
        expandFrom [] false [.visit condition true] =
          some ([result], condition.negatesCompound) ∧
        ∀ state, ExpansionReaches (.start condition) state →
          ExpansionReaches state ⟨[result], condition.negatesCompound, []⟩ ∧
          ∀ result ∈ state.results, result.terms ≠ [] ∧ ∀ term ∈ result.terms, term ≠ []) ∧
      (∀ state product below, ExpansionReaches (.start condition) state →
        state.tasks = .join product :: below → HasOperands condition state product below) ∧
      ∀ left right : TermArray, left.multiply right = left.flatMap fun l => right.map (l ++ ·) := by
  refine ⟨expand_eq condition, ?_, fun _ _ _ => hasOperands_of_join,
    TermArray.multiply_eq_flatMap⟩
  obtain ⟨result, terms, run⟩ := expandFrom_visit condition true [] false []
  rw [Bool.false_or, expandFrom] at run
  refine ⟨result, terms, run, fun state reached => ⟨?_, fun part listed => ?_⟩⟩
  · rw [← outcome_eq_some_iff, ← outcome_eq_of_reaches reached]
    exact run
  · obtain ⟨whole, same⟩ := exists_terms_of_reaches reached part listed
    rw [same]
    exact whole.terms_ne_nil true

/-- Under NOT a conjunction is expanded to terms one behind the other. -/
theorem Condition.operands_of_negated_conjunction :
    ExpansionReaches
        (.start (.and (.leaf ⟨"a", true⟩) (.not (.and (.leaf ⟨"b", false⟩) (.leaf ⟨"", false⟩)))))
        ⟨[#[#[⟨⟨"", false⟩, true⟩]], #[#[⟨⟨"b", false⟩, true⟩]], #[#[⟨⟨"a", true⟩, false⟩]]], true,
          [.join false, .join true]⟩ ∧
      ∃ left right positive before l r,
        TermArray.terms l = terms positive left ∧ TermArray.terms r = terms positive right ∧
          [#[#[⟨⟨"", false⟩, true⟩]], #[#[⟨⟨"b", false⟩, true⟩]], #[#[⟨⟨"a", true⟩, false⟩]]] =
            r :: l :: before := by
  have reached : ExpansionReaches
      (.start (.and (.leaf ⟨"a", true⟩) (.not (.and (.leaf ⟨"b", false⟩) (.leaf ⟨"", false⟩)))))
      ⟨[#[#[⟨⟨"", false⟩, true⟩]], #[#[⟨⟨"b", false⟩, true⟩]], #[#[⟨⟨"a", true⟩, false⟩]]], true,
        [.join false, .join true]⟩ :=
    .head (.and ..) <| .head (.leaf ..) <| .head (.not ..) <| .head (.and ..) <|
      .head (.leaf ..) <| .single (.leaf ..)
  obtain ⟨left, right, positive, before, _, _, _, l, r, termsLeft, termsRight, parts⟩ :=
    (expand_eq_terms_and_operands _).2.2.1 _ _ _ reached rfl
  exact ⟨reached, left, right, positive, before, l, r, termsLeft, termsRight, parts⟩

end LiteralLogic
