import LiteralLogic.Query

/-!
# The truth of a query

A query is true or false as soon as its leaves are: all clauses of a `must` are true,
at least one of a `should`, and none of a `mustNot`.  A leaf gives back the literal that
it searches for, and the form in which a search takes a query gives back the query.

A query is flat if no list of clauses holds a clause of the kind of the list itself.
-/

namespace LiteralLogic

/-- The literal that a leaf searches for.  A phrase does not tell whether letter case
is ignored; it stands for the literal with case. -/
def QueryLeaf.literal : QueryLeaf → Literal
  | .wildcard _ pattern caseInsensitive =>
    ⟨String.ofList (Wildcard.contained pattern.toList), caseInsensitive⟩
  | .matchPhrase _ text => ⟨text, false⟩

namespace Query

/-- The search for one literal that the only member of an object stands for. -/
def leafOfJson (name field : String) (value : Json) : Option QueryLeaf :=
  match name, value with
  | "wildcard", .object [("case_insensitive", .bool caseInsensitive), ("value", .string pattern)] =>
    some (.wildcard field pattern caseInsensitive)
  | "match_phrase", .string text => some (.matchPhrase field text)
  | _, _ => none

mutual

/-- The query that a search takes from a JSON value, if it is one. -/
def ofJson : Json → Option Query
  | .object [(name, .object [(kind, .array items)])] =>
    match name, kind with
    | "bool", "must" => (ofItems items).map must
    | "bool", "should" => (ofItems items).map should
    | "bool", "must_not" => (ofItems items).map mustNot
    | _, _ => none
  | .object [(name, .object [(field, value)])] => (leafOfJson name field value).map leaf
  | _ => none

/-- The queries that the items of an array are, if all of them are. -/
def ofItems : List Json → Option (List Query)
  | [] => some []
  | item :: items =>
    match ofJson item, ofItems items with
    | some clause, some clauses => some (clause :: clauses)
    | _, _ => none

end

mutual

/-- The truth of a query when each leaf is true or false by `truth`. -/
def holds (truth : QueryLeaf → Bool) : Query → Bool
  | .leaf search => truth search
  | .must clauses => allHold truth clauses
  | .should clauses => anyHolds truth clauses
  | .mustNot clauses => !anyHolds truth clauses

/-- Whether all queries of a list hold. -/
def allHold (truth : QueryLeaf → Bool) : List Query → Bool
  | [] => true
  | clause :: clauses => holds truth clause && allHold truth clauses

/-- Whether a query of a list holds. -/
def anyHolds (truth : QueryLeaf → Bool) : List Query → Bool
  | [] => false
  | clause :: clauses => holds truth clause || anyHolds truth clauses

end

/-- Whether a query asks for all of its clauses. -/
def isMust : Query → Bool
  | .must _ => true
  | _ => false

/-- Whether a query asks for one of its clauses. -/
def isShould : Query → Bool
  | .should _ => true
  | _ => false

/-- Whether a query asks for none of its clauses. -/
def isMustNot : Query → Bool
  | .mustNot _ => true
  | _ => false

mutual

/-- Whether no list of clauses in a query holds a clause of the kind of the list. -/
def isFlat : Query → Bool
  | .leaf _ => true
  | .must clauses => !clauses.any isMust && allFlat clauses
  | .should clauses => !clauses.any isShould && allFlat clauses
  | .mustNot clauses => !clauses.any isMustNot && allFlat clauses

/-- Whether all queries of a list are flat. -/
def allFlat : List Query → Bool
  | [] => true
  | clause :: clauses => isFlat clause && allFlat clauses

end

theorem allFlat_eq (clauses : List Query) : allFlat clauses = clauses.all isFlat := by
  induction clauses with
  | nil => simp [allFlat]
  | cons clause clauses ih => simp [allFlat, ih]

end Query

end LiteralLogic
