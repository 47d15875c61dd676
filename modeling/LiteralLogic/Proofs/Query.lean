import LiteralLogic.Proofs.Matcher
import LiteralLogic.Query.Truth

/-!
# Queries mean what conditions mean

The query for a condition is true exactly if the condition is, when each leaf has the
truth of the literal that it searches for.  A condition is exported in three ways: as
an operand below a run of negations, as part of a list of conjuncts, and as part of a
list of disjuncts.  `Query.Exports` says what each of them means, and `Query.exports`
is the induction on the condition.  Nothing is lost when a query is put into the form in
which a search takes it (`Query.ofJson_json`).

The disjuncts of all conditions of a matcher go into one list, so its query is true
exactly if one of the conditions is.
-/

namespace LiteralLogic

/-- A leaf is as true as the literal that it searches for. -/
def QueryLeaf.holds (truth : Literal → Bool) (leaf : QueryLeaf) : Bool :=
  truth leaf.literal

/-- The truth of a literal as far as leaves tell literals apart: phrases ignore whether
letter case counts. -/
def LeafStyle.sees (style : LeafStyle) (truth : Literal → Bool) (literal : Literal) : Bool :=
  match style with
  | .wildcard => truth literal
  | .matchPhrase => truth { literal with caseInsensitive := false }

namespace Query

variable {options : QueryOptions} {truth : Literal → Bool}

theorem holds_signed (search : QueryLeaf → Bool) (negated : Bool) (query : Query) :
    (signed negated query).holds search = (query.holds search != negated) := by
  cases negated <;> simp [signed, holds, anyHolds]

/-- A leaf searches for its literal. -/
theorem holds_ofLiteral (options : QueryOptions) (truth : Literal → Bool) (literal : Literal) :
    (ofLiteral options literal).holds (QueryLeaf.holds truth) =
      options.style.sees truth literal := by
  obtain ⟨field, style⟩ := options
  cases style with
  | wildcard =>
    simp only [ofLiteral, holds, QueryLeaf.holds, QueryLeaf.literal, LeafStyle.sees,
      String.toList_ofList, Wildcard.contained_containing, String.ofList_toList]
  | matchPhrase => rfl

/-- Below negations, among conjuncts and among disjuncts, the queries for the condition are
true exactly if it is. -/
structure Exports (options : QueryOptions) (truth : Literal → Bool) (condition : Condition) :
    Prop where
  operand (negated : Bool) :
    (ofOperand options negated condition).holds (QueryLeaf.holds truth) =
      (condition.holds (options.style.sees truth) != negated)
  conjuncts (tail : List Query) :
    allHold (QueryLeaf.holds truth) (conjunctsOnto options condition tail) =
      (condition.holds (options.style.sees truth) &&
        allHold (QueryLeaf.holds truth) tail)
  disjuncts (tail : List Query) :
    anyHolds (QueryLeaf.holds truth) (disjunctsOnto options condition tail) =
      (condition.holds (options.style.sees truth) ||
        anyHolds (QueryLeaf.holds truth) tail)

theorem Exports.and {left right : Condition} (hl : Exports options truth left)
    (hr : Exports options truth right) : Exports options truth (.and left right) := by
  have list : allHold (QueryLeaf.holds truth)
      (conjunctsOnto options left (conjunctsOnto options right [])) =
        (Condition.and left right).holds (options.style.sees truth) := by
    rw [hl.conjuncts, hr.conjuncts, allHold, Bool.and_true, Condition.holds]
  constructor
  · intro negated
    rw [ofOperand, holds_signed, holds, list]
  · intro tail
    rw [conjunctsOnto, hl.conjuncts, hr.conjuncts, Condition.holds, Bool.and_assoc]
  · intro tail
    rw [disjunctsOnto, anyHolds, holds, list]

theorem Exports.or {left right : Condition} (hl : Exports options truth left)
    (hr : Exports options truth right) : Exports options truth (.or left right) := by
  have list : anyHolds (QueryLeaf.holds truth)
      (disjunctsOnto options left (disjunctsOnto options right [])) =
        (Condition.or left right).holds (options.style.sees truth) := by
    rw [hl.disjuncts, hr.disjuncts, anyHolds, Bool.or_false, Condition.holds]
  constructor
  · intro negated
    rw [ofOperand, holds_signed, holds, list]
  · intro tail
    rw [conjunctsOnto, allHold, holds, list]
  · intro tail
    rw [disjunctsOnto, hl.disjuncts, hr.disjuncts, Condition.holds, Bool.or_assoc]

theorem Exports.not {operand : Condition} (h : Exports options truth operand) :
    Exports options truth (.not operand) := by
  constructor
  · intro negated
    rw [ofOperand, h.operand, Condition.holds]
    cases negated <;> simp
  · intro tail
    rw [conjunctsOnto, allHold, h.operand, Condition.holds, Bool.bne_true]
  · intro tail
    rw [disjunctsOnto, anyHolds, h.operand, Condition.holds, Bool.bne_true]

theorem exports_leaf (options : QueryOptions) (truth : Literal → Bool) (literal : Literal) :
    Exports options truth (.leaf literal) := by
  constructor
  · intro negated
    rw [ofOperand, holds_signed, holds_ofLiteral, Condition.holds]
  · intro tail
    rw [conjunctsOnto, allHold, holds_ofLiteral, Condition.holds]
  · intro tail
    rw [disjunctsOnto, anyHolds, holds_ofLiteral, Condition.holds]

theorem exports (options : QueryOptions) (truth : Literal → Bool) (condition : Condition) :
    Exports options truth condition := by
  induction condition with
  | and left right ihl ihr => exact ihl.and ihr
  | or left right ihl ihr => exact ihl.or ihr
  | not operand ih => exact ih.not
  | leaf literal => exact exports_leaf options truth literal

theorem holds_ofCondition (options : QueryOptions) (truth : Literal → Bool)
    (condition : Condition) :
    (ofCondition options condition).holds (QueryLeaf.holds truth) =
      condition.holds (options.style.sees truth) := by
  rw [ofCondition, (exports options truth condition).operand, Bool.bne_false]

/-! ## Several conditions -/

theorem anyHolds_foldr_disjunctsOnto (options : QueryOptions) (truth : Literal → Bool)
    (conditions : List Condition) :
    anyHolds (QueryLeaf.holds truth) (conditions.foldr (disjunctsOnto options) []) =
      conditions.any (Condition.holds (options.style.sees truth)) := by
  induction conditions with
  | nil => rfl
  | cons condition conditions ih =>
    rw [List.foldr_cons, (exports options truth condition).disjuncts, ih, List.any_cons]

/-- A condition gives at least one clause. -/
theorem disjunctsOnto_ne_nil (options : QueryOptions) (condition : Condition)
    (tail : List Query) : disjunctsOnto options condition tail ≠ [] := by
  induction condition generalizing tail with
  | or left right ihl _ =>
    rw [disjunctsOnto]
    exact ihl _
  | and | not | leaf => simp [disjunctsOnto]

theorem ofConditions_eq_none_iff {conditions : List Condition} :
    ofConditions options conditions = none ↔ conditions = [] := by
  constructor
  · intro absent
    cases conditions with
    | nil => rfl
    | cons condition conditions =>
      unfold ofConditions at absent
      split at absent
      · rename_i empty
        exact (disjunctsOnto_ne_nil options condition _ empty).elim
      · cases absent
      · cases absent
  · intro none
    subst none
    rfl

/-- The query for several conditions is true exactly if one of them is. -/
theorem any_ofConditions (options : QueryOptions) (truth : Literal → Bool)
    (conditions : List Condition) :
    (ofConditions options conditions).any (holds (QueryLeaf.holds truth)) =
      conditions.any (Condition.holds (options.style.sees truth)) := by
  rw [← anyHolds_foldr_disjunctsOnto, ofConditions]
  split
  · rename_i none
    rw [none]
    rfl
  · rename_i clause one
    rw [one]
    simp [anyHolds]
  · rfl

/-! ## The form in which a search takes a query -/

theorem jsonFrom_eq (done : List Json) (clauses : List Query) :
    jsonFrom done clauses = done.reverse ++ clauses.map json := by
  induction clauses generalizing done with
  | nil => rw [jsonFrom, List.map_nil, List.append_nil]
  | cons clause clauses ih =>
    rw [jsonFrom, ih, List.reverse_cons, List.append_assoc, List.map_cons, List.singleton_append]

theorem ofJson_leafJson (search : QueryLeaf) : ofJson (leafJson search) = some (.leaf search) := by
  cases search <;> rfl

mutual

/-- The query is read back. -/
theorem ofJson_json : ∀ query : Query, ofJson query.json = some query
  | .leaf search => ofJson_leafJson search
  | .must clauses => by
    rw [json, jsonFrom_eq, boolObject, ofJson]
    simp only [List.reverse_nil, List.nil_append, ofItems_json clauses, Option.map_some]
  | .should clauses => by
    rw [json, jsonFrom_eq, boolObject, ofJson]
    simp only [List.reverse_nil, List.nil_append, ofItems_json clauses, Option.map_some]
  | .mustNot clauses => by
    rw [json, jsonFrom_eq, boolObject, ofJson]
    simp only [List.reverse_nil, List.nil_append, ofItems_json clauses, Option.map_some]

theorem ofItems_json : ∀ clauses : List Query, ofItems (clauses.map json) = some clauses
  | [] => rfl
  | clause :: clauses => by
    rw [List.map_cons, ofItems, ofJson_json clause, ofItems_json clauses]

end

/-- The empty object is no query. -/
theorem ofJson_jsonOfOption (query : Option Query) : ofJson (jsonOfOption query) = query := by
  cases query with
  | none => rfl
  | some query => exact ofJson_json query

theorem jsonOfOption_eq_empty_iff {query : Option Query} :
    jsonOfOption query = .object [] ↔ query = none := by
  constructor
  · intro empty
    rw [← ofJson_jsonOfOption query, empty]
    rfl
  · intro absent
    rw [absent]
    rfl

end Query

namespace Matcher

/-- What a search takes for a condition has its truth, in either style of leaves.  What it takes
for a matcher is true exactly if one of its texts that are not empty is a condition that is
true, and is the empty object exactly if all of them are empty. -/
theorem holds_ofCondition_and_query (options : QueryOptions) (truth : Literal → Bool) :
    (∀ condition : Condition,
      (Query.ofJson (Query.ofCondition options condition).json).map
          (Query.holds (QueryLeaf.holds truth)) =
        some (condition.holds (options.style.sees truth))) ∧
    ∀ (folding : Folding) (texts : List String) (matcher : Matcher),
      compile folding texts = .ok matcher →
        ((Query.ofJson (Query.jsonOfOption (matcher.query options))).any
            (Query.holds (QueryLeaf.holds truth)) = true ↔
          ∃ text ∈ texts, text ≠ "" ∧ ∃ condition, Condition.parse text = .ok condition ∧
            condition.holds (options.style.sees truth) = true) ∧
        (Query.jsonOfOption (matcher.query options) = .object [] ↔ ∀ text ∈ texts, text = "") := by
  refine ⟨fun condition => ?_, fun folding texts matcher compiled => ?_⟩
  · rw [Query.ofJson_json, Option.map_some, Query.holds_ofCondition]
  rcases exists_compilation compiled with ⟨compilation, compiles, rfl⟩
  have exported : (compilation.finish folding).query options =
      Query.ofConditions options (compilation.conditions.toList.filterMap id) := rfl
  rw [Query.ofJson_jsonOfOption, exported]
  constructor
  · rw [Query.any_ofConditions, List.any_eq_true]
    simp only [compiles.mem_filterMap_iff]
    constructor
    · intro found
      rcases found with ⟨condition, ⟨text, mem, nonempty, read⟩, holds⟩
      exact ⟨text, mem, nonempty, condition, read, holds⟩
    · intro found
      rcases found with ⟨text, mem, nonempty, condition, read, holds⟩
      exact ⟨condition, ⟨text, mem, nonempty, read⟩, holds⟩
  · rw [Query.jsonOfOption_eq_empty_iff, Query.ofConditions_eq_none_iff,
      compiles.filterMap_eq_nil_iff]

/-- A disjunction of which one operand is negated twice, beside an empty text. -/
theorem query_holds_and_ne_empty : ∃ matcher,
    compile .unicode ["\"a*\" OR NOT (NOT \"b\"i)", ""] = .ok matcher ∧
      (Query.ofJson (Query.jsonOfOption (matcher.query {}))).any
        (Query.holds (QueryLeaf.holds (· = ⟨"b", true⟩))) = true ∧
      ¬(Query.ofJson (Query.jsonOfOption (matcher.query {}))).any
        (Query.holds (QueryLeaf.holds (· = ⟨"b", false⟩))) = true ∧
      Query.jsonOfOption (matcher.query {}) ≠ .object [] := by
  have read : Condition.parse "\"a*\" OR NOT (NOT \"b\"i)" =
      .ok (.or (.leaf ⟨"a*", false⟩) (.not (.not (.leaf ⟨"b", true⟩)))) := rfl
  have reads : ∀ text ∈ ["\"a*\" OR NOT (NOT \"b\"i)", ""],
      ∃ condition, ReadsAs text condition := by
    simp only [List.forall_mem_cons]
    exact ⟨⟨some _, by decide, read⟩, ⟨none, rfl⟩, by simp⟩
  rcases exists_compile .unicode reads with ⟨matcher, compiled⟩
  have exported := fun truth => (holds_ofCondition_and_query {} truth).2 _ _ _ compiled
  refine ⟨matcher, compiled, ?_, ?_, ?_⟩
  · exact (exported _).1.mpr ⟨_, List.mem_cons_self, by decide, _, read, by decide⟩
  · intro found
    rcases (exported _).1.mp found with ⟨text, mem, nonempty, condition, parsed, holds⟩
    rcases List.mem_cons.mp mem with rfl | mem
    · rw [read] at parsed
      cases parsed
      revert holds
      decide
    · exact nonempty (List.mem_singleton.mp mem)
  · intro absent
    have empty := (exported fun _ => true).2.mp absent _ List.mem_cons_self
    revert empty
    decide

end Matcher

end LiteralLogic
