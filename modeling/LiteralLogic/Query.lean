import LiteralLogic.Condition
import LiteralLogic.Json
import LiteralLogic.Query.Wildcard

/-!
# Conditions as search queries

A condition is exported as a boolean query of a document search.  A chain of one
operator becomes one list of clauses however it is grouped; a run of negations
cancels in pairs, and what is left of it is one negation.  A chain below such a run
is a clause of its own.
-/

namespace LiteralLogic

/-- How literals are searched for: as wildcard patterns, or as phrases of which the
search decides itself whether letter case counts. -/
inductive LeafStyle where
  | wildcard
  | matchPhrase
deriving DecidableEq

/-- What a query is made for: the document field that is searched, and how. -/
structure QueryOptions where
  field : String := "raw"
  style : LeafStyle := .wildcard

/-- The search for one literal. -/
inductive QueryLeaf where
  | wildcard (field pattern : String) (caseInsensitive : Bool)
  | matchPhrase (field text : String)
deriving DecidableEq

/-- A boolean query: all clauses, at least one, or none of them. -/
inductive Query where
  | leaf (search : QueryLeaf)
  | must (clauses : List Query)
  | should (clauses : List Query)
  | mustNot (clauses : List Query)

namespace Query

/-- The search for a literal. -/
def ofLiteral (options : QueryOptions) (literal : Literal) : Query :=
  match options.style with
  | .wildcard =>
    let pattern := String.ofList (Wildcard.containing literal.text.toList)
    .leaf (.wildcard options.field pattern literal.caseInsensitive)
  | .matchPhrase => .leaf (.matchPhrase options.field literal.text)

/-- The query, or the query for its negation. -/
def signed (negated : Bool) (query : Query) : Query :=
  if negated then .mustNot [query] else query

mutual

/-- The query for a condition below a run of negations that leaves a negation or
not. -/
def ofOperand (options : QueryOptions) (negated : Bool) : Condition → Query
  | .and left right =>
    signed negated (.must (conjunctsOnto options left (conjunctsOnto options right [])))
  | .or left right =>
    signed negated (.should (disjunctsOnto options left (disjunctsOnto options right [])))
  | .not operand => ofOperand options (!negated) operand
  | .leaf literal => signed negated (ofLiteral options literal)

/-- The queries for the operands of a chain of ANDs, put before `tail`. -/
def conjunctsOnto (options : QueryOptions) : Condition → List Query → List Query
  | .and left right, tail => conjunctsOnto options left (conjunctsOnto options right tail)
  | .or left right, tail =>
    .should (disjunctsOnto options left (disjunctsOnto options right [])) :: tail
  | .not operand, tail => ofOperand options true operand :: tail
  | .leaf literal, tail => ofLiteral options literal :: tail

/-- The queries for the operands of a chain of ORs, put before `tail`. -/
def disjunctsOnto (options : QueryOptions) : Condition → List Query → List Query
  | .or left right, tail => disjunctsOnto options left (disjunctsOnto options right tail)
  | .and left right, tail =>
    .must (conjunctsOnto options left (conjunctsOnto options right [])) :: tail
  | .not operand, tail => ofOperand options true operand :: tail
  | .leaf literal, tail => ofLiteral options literal :: tail

end

/-- The query for a condition. -/
def ofCondition (options : QueryOptions) (condition : Condition) : Query :=
  ofOperand options false condition

/-- The query for the documents that satisfy at least one of the conditions; none
without conditions. -/
def ofConditions (options : QueryOptions) (conditions : List Condition) : Option Query :=
  match conditions.foldr (disjunctsOnto options) [] with
  | [] => none
  | [clause] => some clause
  | clauses => some (.should clauses)

/-- The object with a boolean query of one kind. -/
def boolObject (kind : String) (clauses : List Json) : Json :=
  .object [("bool", .object [(kind, .array clauses)])]

/-- The object for the search for one literal. -/
def leafJson : QueryLeaf → Json
  | .wildcard field pattern caseInsensitive =>
    .object [("wildcard", .object [(field, .object
      [("case_insensitive", .bool caseInsensitive), ("value", .string pattern)])])]
  | .matchPhrase field text => .object [("match_phrase", .object [(field, .string text)])]

mutual

/-- A query in the form in which a search takes it. -/
def json : Query → Json
  | .leaf search => leafJson search
  | .must clauses => boolObject "must" (jsonFrom [] clauses)
  | .should clauses => boolObject "should" (jsonFrom [] clauses)
  | .mustNot clauses => boolObject "must_not" (jsonFrom [] clauses)

/-- The queries of a list in that form, behind those that are done, latest first. -/
def jsonFrom (done : List Json) : List Query → List Json
  | [] => done.reverse
  | clause :: clauses => jsonFrom (json clause :: done) clauses

end

/-- A query in the form in which a search takes it; the empty object for no query. -/
def jsonOfOption : Option Query → Json
  | some query => query.json
  | none => .object []

end Query

end LiteralLogic
