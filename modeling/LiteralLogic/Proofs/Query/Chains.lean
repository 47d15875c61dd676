import LiteralLogic.Proofs.Query
import LiteralLogic.Proofs.Query.Operands

/-!
# Lists of clauses and chains of operands

Every list of clauses in a query comes from a chain in the condition, or from a negation: it
holds the queries for the operands, from left to right and however the chain is grouped
(`Query.listsOperands_of_hasPart`).  None of these operands is joined by the operator of the
chain, so a clause is a list of the same kind only where its operand is such a chain below
pairs of negations (`Query.operator?_ofCondition`).  A chain is not followed through such a
pair, and where it goes on behind one, and only there, the query is not flat.  Of a run of
negations one is left at most, so no list of negated clauses holds a negation.

The query for a matcher is the query for the disjunction of its conditions.
-/

namespace LiteralLogic

/-! ## Parts of queries -/

namespace Query

/-- The query with clauses that AND, OR or NOT join. -/
def ofClauses : Operator → List Query → Query
  | .and => .must
  | .or => .should
  | .not => .mustNot

/-- The operator that joins the clauses of a query. -/
def operator? : Query → Option Operator
  | .leaf _ => none
  | .must _ => some .and
  | .should _ => some .or
  | .mustNot _ => some .not

/-- The second query is the first one or stands among its clauses at some depth. -/
inductive HasPart : Query → Query → Prop
  | whole (query : Query) : HasPart query query
  | clause (operator : Operator) {clauses : List Query} {clause part : Query} :
    clause ∈ clauses → HasPart clause part → HasPart (ofClauses operator clauses) part

@[simp]
theorem operator?_ofClauses (operator : Operator) (clauses : List Query) :
    (ofClauses operator clauses).operator? = some operator := by
  cases operator <;> rfl

theorem ofClauses_inj {operator operator' : Operator} {clauses clauses' : List Query}
    (same : ofClauses operator clauses = ofClauses operator' clauses') :
    operator = operator' ∧ clauses = clauses' := by
  have top : some operator = some operator' := by
    rw [← operator?_ofClauses operator clauses, same, operator?_ofClauses]
  cases top
  cases operator <;> cases same <;> exact ⟨rfl, rfl⟩

theorem HasPart.cases_ofClauses (operator : Operator) {clauses : List Query} {part : Query}
    (within : (ofClauses operator clauses).HasPart part) :
    part = ofClauses operator clauses ∨ ∃ clause ∈ clauses, clause.HasPart part := by
  generalize same : ofClauses operator clauses = query at within
  cases within with
  | whole => exact .inl rfl
  | clause _ mem inner =>
    rcases ofClauses_inj same with ⟨-, rfl⟩
    exact .inr ⟨_, mem, inner⟩

theorem not_hasPart_leaf {search : QueryLeaf} {operator : Operator} {clauses : List Query} :
    ¬(Query.leaf search).HasPart (ofClauses operator clauses) := by
  intro within
  generalize same : Query.leaf search = query at within
  generalize part : ofClauses operator clauses = list at within
  cases within with
  | whole => cases operator <;> cases same.trans part.symm
  | clause operator' => cases operator' <;> cases same

theorem isMust_iff {query : Query} : query.isMust = true ↔ query.operator? = some .and := by
  cases query <;> simp [isMust, operator?]

theorem isShould_iff {query : Query} : query.isShould = true ↔ query.operator? = some .or := by
  cases query <;> simp [isShould, operator?]

theorem isMustNot_iff {query : Query} : query.isMustNot = true ↔ query.operator? = some .not := by
  cases query <;> simp [isMustNot, operator?]

theorem isFlat_ofClauses_iff (operator : Operator) {clauses : List Query} :
    (ofClauses operator clauses).isFlat = true ↔
      ∀ clause ∈ clauses, clause.operator? ≠ some operator ∧ clause.isFlat = true := by
  cases operator with
  | and =>
    simp only [ofClauses, isFlat, allFlat_eq, Bool.and_eq_true, Bool.not_eq_true',
      List.any_eq_false, List.all_eq_true, isMust_iff, ← forall_and]
  | or =>
    simp only [ofClauses, isFlat, allFlat_eq, Bool.and_eq_true, Bool.not_eq_true',
      List.any_eq_false, List.all_eq_true, isShould_iff, ← forall_and]
  | not =>
    simp only [ofClauses, isFlat, allFlat_eq, Bool.and_eq_true, Bool.not_eq_true',
      List.any_eq_false, List.all_eq_true, isMustNot_iff, ← forall_and]

/-- A query is flat if no list in it holds a clause of its own kind. -/
theorem isFlat_of_forall_hasPart : ∀ query : Query,
    (∀ operator clauses, query.HasPart (ofClauses operator clauses) →
      ∀ clause ∈ clauses, clause.operator? ≠ some operator) →
    query.isFlat = true
  | .leaf _, _ => rfl
  | .must clauses, apart => (isFlat_ofClauses_iff .and).mpr fun clause mem =>
    ⟨apart .and clauses (.whole _) clause mem, isFlat_of_forall_hasPart clause
      fun operator inner part => apart operator inner (.clause .and mem part)⟩
  | .should clauses, apart => (isFlat_ofClauses_iff .or).mpr fun clause mem =>
    ⟨apart .or clauses (.whole _) clause mem, isFlat_of_forall_hasPart clause
      fun operator inner part => apart operator inner (.clause .or mem part)⟩
  | .mustNot clauses, apart => (isFlat_ofClauses_iff .not).mpr fun clause mem =>
    ⟨apart .not clauses (.whole _) clause mem, isFlat_of_forall_hasPart clause
      fun operator inner part => apart operator inner (.clause .not mem part)⟩

theorem HasPart.isFlat {query part : Query} (within : query.HasPart part)
    (flat : query.isFlat = true) : part.isFlat = true := by
  induction within with
  | whole => exact flat
  | clause operator mem _ ih => exact ih ((isFlat_ofClauses_iff operator).mp flat _ mem).2

/-! ## The query for a condition -/

section

variable (options : QueryOptions)

theorem exists_ofLiteral_eq_leaf (literal : Literal) :
    ∃ search, ofLiteral options literal = .leaf search := by
  rw [ofLiteral]
  split <;> exact ⟨_, rfl⟩

/-- The conjuncts are exported one by one. -/
theorem conjunctsOnto_eq (condition : Condition) (tail : List Query) :
    conjunctsOnto options condition tail =
      (condition.operands .and).map (ofCondition options) ++ tail := by
  induction condition generalizing tail with
  | and left right ihl ihr =>
    rw [conjunctsOnto, ihr, ihl, Condition.operands, if_pos rfl, List.map_append, List.append_assoc]
  | or | not | leaf => rfl

/-- The disjuncts are exported one by one. -/
theorem disjunctsOnto_eq (condition : Condition) (tail : List Query) :
    disjunctsOnto options condition tail =
      (condition.operands .or).map (ofCondition options) ++ tail := by
  induction condition generalizing tail with
  | or left right ihl ihr =>
    rw [disjunctsOnto, ihr, ihl, Condition.operands, if_pos rfl, List.map_append, List.append_assoc]
  | and | not | leaf => rfl

/-- A chain is exported as the list of the queries for its operands. -/
theorem ofOperand_chain {operator : Operator} (binary : operator ≠ .not) {condition : Condition}
    (top : condition.operator? = some operator) (negated : Bool) :
    ofOperand options negated condition = signed negated
      (ofClauses operator ((condition.operands operator).map (ofCondition options))) := by
  cases condition with
  | leaf literal => cases top
  | not operand => exact (binary (Option.some.inj top).symm).elim
  | and left right =>
    cases top
    have whole := conjunctsOnto_eq options (.and left right) []
    rw [conjunctsOnto, List.append_nil] at whole
    rw [ofOperand, whole]
    rfl
  | or left right =>
    cases top
    have whole := disjunctsOnto_eq options (.or left right) []
    rw [disjunctsOnto, List.append_nil] at whole
    rw [ofOperand, whole]
    rfl

theorem ofCondition_chain {operator : Operator} (binary : operator ≠ .not) {condition : Condition}
    (top : condition.operator? = some operator) :
    ofCondition options condition =
      ofClauses operator ((condition.operands operator).map (ofCondition options)) :=
  ofOperand_chain options binary top false

/-- Pairs of negations do not show in a query, and the operator below them does. -/
theorem operator?_ofCondition : ∀ condition : Condition,
    (ofCondition options condition).operator? = condition.withoutPairs.operator?
  | .leaf literal => by
    rcases exists_ofLiteral_eq_leaf options literal with ⟨search, leaf⟩
    exact congrArg operator? leaf
  | .and _ _ | .or _ _ | .not (.leaf _) | .not (.and _ _) | .not (.or _ _) => rfl
  | .not (.not inner) => operator?_ofCondition inner

/-- What is not a negation is not exported as one. -/
theorem isMustNot_ofCondition {condition : Condition} (positive : condition.operator? ≠ some .not) :
    (ofCondition options condition).isMustNot = false := by
  rw [← Bool.not_eq_true, isMustNot_iff, operator?_ofCondition,
    Condition.withoutPairs_of_ne positive]
  exact positive

end

variable {options : QueryOptions}

/-- The clauses are the queries for the operands of a part of the condition, in which none of
these operands has the operator of the part. -/
def ListsOperands (options : QueryOptions) (condition : Condition) (operator : Operator)
    (clauses : List Query) : Prop :=
  ∃ chain ∈ condition.parts, chain.operator? = some operator ∧
    clauses = (chain.operands operator).map (ofCondition options) ∧
    ∀ operand ∈ chain.operands operator, operand.operator? ≠ some operator

theorem ListsOperands.mono {condition whole : Condition} {operator : Operator}
    {clauses : List Query} (h : ListsOperands options condition operator clauses)
    (within : condition.parts ⊆ whole.parts) : ListsOperands options whole operator clauses := by
  rcases h with ⟨chain, part, rest⟩
  exact ⟨chain, within part, rest⟩

/-- What the lists in a query come from, those in the query below a negation come from. -/
theorem listsOperands_signed {condition : Condition} (positive : condition.operator? ≠ some .not)
    (lists : ∀ operator clauses,
      (ofCondition options condition).HasPart (ofClauses operator clauses) →
        ListsOperands options condition operator clauses)
    {negated : Bool} {operator : Operator} {clauses : List Query}
    (part : (signed negated (ofCondition options condition)).HasPart
      (ofClauses operator clauses)) :
    ListsOperands options (condition.negatedIf negated) operator clauses := by
  cases negated with
  | false => exact lists operator clauses part
  | true =>
    rcases HasPart.cases_ofClauses .not part with same | ⟨clause, mem, inner⟩
    · rcases ofClauses_inj same with ⟨rfl, rfl⟩
      exact ⟨.not condition, Condition.self_mem_parts _, rfl, rfl,
        List.forall_mem_singleton.mpr positive⟩
    · rw [List.mem_singleton.mp mem] at inner
      exact (lists operator clauses inner).mono fun part => List.mem_cons_of_mem _

/-- Every list in the query for a condition below negations comes from a part of it. -/
theorem listsOperands_of_hasPart (condition : Condition) (negated : Bool) {operator : Operator}
    {clauses : List Query}
    (part : (ofOperand options negated condition).HasPart (ofClauses operator clauses)) :
    ListsOperands options (condition.negatedIf negated) operator clauses := by
  -- not by the constructors: one list takes in the operands of all the ANDs or ORs of a chain
  induction condition using Condition.chain_induction generalizing negated operator clauses with
  | leaf literal =>
    refine listsOperands_signed (Condition.operator?_leaf_ne literal .not) ?_ part
    intro operator clauses within
    rcases exists_ofLiteral_eq_leaf options literal with ⟨search, leaf⟩
    have within : (ofLiteral options literal).HasPart (ofClauses operator clauses) := within
    rw [leaf] at within
    exact (not_hasPart_leaf within).elim
  | not operand ih =>
    have lists := ih (!negated) part
    cases negated with
    | false => exact lists
    | true => exact lists.mono fun part mem => List.mem_cons_of_mem _ (List.mem_cons_of_mem _ mem)
  | chain chained condition binary top ih =>
    have positive : condition.operator? ≠ some .not := by
      rw [top]
      exact fun same => binary (Option.some.inj same)
    rw [ofOperand_chain options binary top, ← ofCondition_chain options binary top] at part
    refine listsOperands_signed positive ?_ part
    intro operator clauses within
    have spec := Condition.operand_spec binary condition
    rw [ofCondition_chain options binary top] at within
    rcases HasPart.cases_ofClauses chained within with same | ⟨clause, listed, inner⟩
    · rcases ofClauses_inj same with ⟨rfl, rfl⟩
      exact ⟨condition, condition.self_mem_parts, top, rfl, fun operand mem => (spec operand mem).1⟩
    · rcases List.mem_map.mp listed with ⟨operand, mem, rfl⟩
      exact ListsOperands.mono (ih operand mem false inner) (spec operand mem).2

/-- The clauses stand together in one of the lists of this kind in the query. -/
def HasClauses (query : Query) (operator : Operator) (clauses : List Query) : Prop :=
  ∃ list, query.HasPart (ofClauses operator list) ∧ clauses ⊆ list

theorem HasClauses.signed {query : Query} {operator : Operator} {clauses : List Query}
    (h : HasClauses query operator clauses) (negated : Bool) :
    HasClauses (signed negated query) operator clauses := by
  rcases h with ⟨list, part, all⟩
  cases negated with
  | false => exact ⟨list, part, all⟩
  | true => exact ⟨list, .clause .not (List.mem_singleton.mpr rfl) part, all⟩

/-- What stands together in the query for one side of a chain stands together in the query for
the chain, where the operands of the side are among the others. -/
theorem hasClauses_of_side {joined : Operator} (binary : joined ≠ .not) {chain side : Condition}
    (top : chain.operator? = some joined) (among : side.operands joined ⊆ chain.operands joined)
    {operator : Operator} {clauses : List Query}
    (h : HasClauses (ofCondition options side) operator clauses) (negated : Bool) :
    HasClauses (ofOperand options negated chain) operator clauses := by
  rw [ofOperand_chain options binary top]
  refine HasClauses.signed ?_ negated
  rcases h with ⟨list, part, all⟩
  have below : ∀ operand ∈ chain.operands joined,
      (ofCondition options operand).HasPart (ofClauses operator list) →
        HasClauses (ofClauses joined ((chain.operands joined).map (ofCondition options)))
          operator clauses :=
    fun operand mem part => ⟨list, .clause joined (List.mem_map_of_mem mem) part, all⟩
  -- a side with the operator of the chain is spliced into its list, another one is a clause
  by_cases same : side.operator? = some joined
  · rw [ofCondition_chain options binary same] at part
    rcases HasPart.cases_ofClauses joined part with whole | ⟨clause, listed, inner⟩
    · rcases ofClauses_inj whole with ⟨rfl, rfl⟩
      exact ⟨_, .whole _, List.Subset.trans all (List.map_subset _ among)⟩
    · rcases List.mem_map.mp listed with ⟨operand, mem, rfl⟩
      exact below operand (among mem) inner
  · rw [Condition.operands_of_ne same] at among
    exact below side (among (List.mem_singleton.mpr rfl)) part

/-- The queries for the operands of a chain in a condition stand together in its query. -/
theorem hasClauses_of_mem_parts {operator : Operator} (binary : operator ≠ .not)
    {chain : Condition} (top : chain.operator? = some operator) (condition : Condition)
    (negated : Bool) (within : chain ∈ condition.parts) :
    HasClauses (ofOperand options negated condition) operator
      ((chain.operands operator).map (ofCondition options)) := by
  induction condition generalizing negated with
  | leaf literal =>
    rw [List.mem_singleton.mp within] at top
    cases top
  | not operand ih =>
    rcases List.mem_cons.mp within with rfl | inside
    · exact (Condition.operator?_not_ne binary operand top).elim
    · exact ih (!negated) inside
  | and left right ihl ihr | or left right ihl ihr =>
    rcases List.mem_cons.mp within with rfl | inside
    · rw [ofOperand_chain options binary top]
      exact HasClauses.signed ⟨_, .whole _, List.Subset.refl _⟩ negated
    · rcases List.mem_append.mp inside with inLeft | inRight
      · have ofLeft := ihl false inLeft
        exact hasClauses_of_side (by decide) rfl (List.subset_append_left _ _) ofLeft negated
      · have ofRight := ihr false inRight
        exact hasClauses_of_side (by decide) rfl (List.subset_append_right _ _) ofRight negated

/-- A query is flat exactly where no chain goes on below pairs of negations. -/
theorem isFlat_ofCondition_iff (condition : Condition) :
    (ofCondition options condition).isFlat = true ↔ ¬condition.ResumesChain := by
  constructor
  · intro flat resumes
    rcases resumes with ⟨chain, within, operator, listed, top, operand, mem, again⟩
    have binary : operator ≠ .not := by
      rintro rfl
      exact absurd listed (by decide)
    rcases hasClauses_of_mem_parts binary top condition false within with ⟨list, part, all⟩
    have apart := (isFlat_ofClauses_iff operator).mp (part.isFlat flat)
    refine (apart _ (all (List.mem_map_of_mem mem))).1 ?_
    rw [operator?_ofCondition, again]
  · intro apart
    apply isFlat_of_forall_hasPart
    intro operator clauses part clause listed same
    rcases listsOperands_of_hasPart condition false part with ⟨chain, within, top, rfl, others⟩
    rcases List.mem_map.mp listed with ⟨operand, mem, rfl⟩
    rw [operator?_ofCondition] at same
    cases operator with
    | and => exact apart ⟨chain, within, .and, by decide, top, operand, mem, same⟩
    | or => exact apart ⟨chain, within, .or, by decide, top, operand, mem, same⟩
    | not =>
      rw [Condition.withoutPairs_of_ne (others operand mem)] at same
      exact others operand mem same

/-! ## The query for several conditions -/

theorem foldr_disjunctsOnto (conditions : List Condition) :
    conditions.foldr (disjunctsOnto options) [] =
      (conditions.flatMap (Condition.operands .or)).map (ofCondition options) := by
  induction conditions with
  | nil => rfl
  | cons condition conditions ih =>
    rw [List.foldr_cons, ih, disjunctsOnto_eq, List.flatMap_cons, List.map_append]

/-- The query for several conditions is the query for their disjunction. -/
theorem ofConditions_eq_map_chain (options : QueryOptions) (conditions : List Condition) :
    ofConditions options conditions =
      (Condition.chain .or conditions).map (ofCondition options) := by
  cases joined : Condition.chain .or conditions with
  | none =>
    cases conditions with
    | nil => rfl
    | cons => cases joined
  | some condition =>
    have clauses : conditions.foldr (disjunctsOnto options) [] =
        (condition.operands .or).map (ofCondition options) := by
      rw [foldr_disjunctsOnto, Condition.operands_chain_or joined]
    rw [ofConditions, clauses, Option.map_some]
    by_cases top : condition.operator? = some .or
    · rw [ofCondition_chain options Operator.or_ne_not top]
      have two := Condition.two_le_length_operands Operator.or_ne_not top
      generalize condition.operands .or = operands at two ⊢
      rcases operands with _ | ⟨first, _ | ⟨second, rest⟩⟩
      · simp at two
      · simp at two
      · rfl
    · rw [Condition.operands_of_ne top]
      rfl

end Query

namespace Matcher

/-- Every list of clauses in the query for a condition holds the queries for the operands of a
chain of the condition, or for what stands below a negation.  A clause is a list of the same
kind exactly if its operand is the same operator again but for pairs of negations above it,
which is never so in a list of negated clauses; the query is flat exactly if there is no such
operand.  The query for a matcher is the query for the disjunction of its conditions, and flat
exactly if there is no such operand in this disjunction. -/
theorem clauses_of_query (options : QueryOptions) :
    (∀ (condition : Condition) (operator : Operator) (clauses : List Query),
      (Query.ofCondition options condition).HasPart (.ofClauses operator clauses) →
        ∃ chain ∈ condition.parts, chain.operator? = some operator ∧
          clauses = (chain.operands operator).map (Query.ofCondition options) ∧
          ∀ operand ∈ chain.operands operator, operand.operator? ≠ some operator ∧
            ((Query.ofCondition options operand).operator? = some operator ↔
              operand.withoutPairs.operator? = some operator)) ∧
    (∀ (condition : Condition) (clauses : List Query),
      (Query.ofCondition options condition).HasPart (.mustNot clauses) →
        ∀ clause ∈ clauses, clause.isMustNot = false) ∧
    (∀ condition : Condition,
      (Query.ofCondition options condition).isFlat = true ↔ ¬condition.ResumesChain) ∧
    (∀ matcher : Matcher, matcher.query options =
      (Condition.chain .or (matcher.conditions.toList.filterMap id)).map
        (Query.ofCondition options)) ∧
    ∀ matcher : Matcher, (matcher.query options).all Query.isFlat = true ↔
      ∀ condition,
        Condition.chain .or (matcher.conditions.toList.filterMap id) = some condition →
          ¬condition.ResumesChain := by
  have ofMatcher : ∀ matcher : Matcher, matcher.query options =
      (Condition.chain .or (matcher.conditions.toList.filterMap id)).map
        (Query.ofCondition options) :=
    fun matcher => Query.ofConditions_eq_map_chain options _
  refine ⟨?_, ?_, ?_, ofMatcher, ?_⟩
  · intro condition operator clauses part
    rcases Query.listsOperands_of_hasPart condition false part with
      ⟨chain, within, top, same, others⟩
    refine ⟨chain, within, top, same, fun operand mem => ⟨others operand mem, ?_⟩⟩
    rw [Query.operator?_ofCondition]
  · intro condition clauses part clause listed
    have part : (Query.ofCondition options condition).HasPart (.ofClauses .not clauses) := part
    rcases Query.listsOperands_of_hasPart condition false part with ⟨chain, -, -, rfl, others⟩
    rcases List.mem_map.mp listed with ⟨operand, mem, rfl⟩
    exact Query.isMustNot_ofCondition options (others operand mem)
  · intro condition
    exact Query.isFlat_ofCondition_iff condition
  · intro matcher
    rw [ofMatcher]
    cases Condition.chain .or (matcher.conditions.toList.filterMap id) with
    | none => simp
    | some condition => simp [Query.isFlat_ofCondition_iff]

/-- A pair of negations between two conjunctions leaves the list of the one in the list of the
other. -/
theorem not_isFlat_of_pair_between_conjunctions : ∃ condition,
    Condition.parse "\"a\" AND NOT (NOT (\"b\" AND \"c\"))" = .ok condition ∧
      Query.ofCondition {} condition =
        .must [.leaf (.wildcard "raw" "*a*" false),
          .must [.leaf (.wildcard "raw" "*b*" false), .leaf (.wildcard "raw" "*c*" false)]] ∧
      (Query.ofCondition {} condition).isFlat = false :=
  ⟨.and (.leaf ⟨"a", false⟩) (.not (.not (.and (.leaf ⟨"b", false⟩) (.leaf ⟨"c", false⟩)))),
    rfl, rfl, rfl⟩

/-- A pair of negations between a conjunction and a disjunction. -/
theorem isFlat_of_pair_between_conjunction_and_disjunction : ∃ condition,
    Condition.parse "NOT \"a\" AND NOT (NOT (\"b\" OR \"c\"))" = .ok condition ∧
      (∃ chain ∈ condition.parts, chain.operator? = some .and ∧
        [Query.mustNot [.leaf (.wildcard "raw" "*a*" false)],
          .should [.leaf (.wildcard "raw" "*b*" false), .leaf (.wildcard "raw" "*c*" false)]] =
          (chain.operands .and).map (Query.ofCondition {})) ∧
      (Query.leaf (.wildcard "raw" "*a*" false)).isMustNot = false ∧
      ¬condition.ResumesChain ∧ (Query.ofCondition {} condition).isFlat = true := by
  have whole : (Query.ofCondition {} (.and (.not (.leaf ⟨"a", false⟩))
      (.not (.not (.or (.leaf ⟨"b", false⟩) (.leaf ⟨"c", false⟩)))))).HasPart
        (.ofClauses .and [.mustNot [.leaf (.wildcard "raw" "*a*" false)],
          .should [.leaf (.wildcard "raw" "*b*" false), .leaf (.wildcard "raw" "*c*" false)]]) :=
    .whole _
  have negation : (Query.ofCondition {} (.and (.not (.leaf ⟨"a", false⟩))
      (.not (.not (.or (.leaf ⟨"b", false⟩) (.leaf ⟨"c", false⟩)))))).HasPart
        (.mustNot [.leaf (.wildcard "raw" "*a*" false)]) :=
    .clause .and List.mem_cons_self (.whole _)
  have apart : ¬(Condition.and (.not (.leaf ⟨"a", false⟩))
      (.not (.not (.or (.leaf ⟨"b", false⟩) (.leaf ⟨"c", false⟩))))).ResumesChain := by
    decide
  rcases clauses_of_query {} with ⟨lists, negations, flat, -⟩
  rcases lists _ _ _ whole with ⟨chain, part, top, clauses, -⟩
  exact ⟨_, rfl, ⟨chain, part, top, clauses⟩, negations _ _ negation _ List.mem_cons_self, apart,
    (flat _).mpr apart⟩

end Matcher

end LiteralLogic
