import LiteralLogic.Ascending
import LiteralLogic.Trie
import Std.Data.HashMap
import Std.Data.HashSet

/-!
# A shared tree of conjunctions

Conjunctions of signed literals, each belonging to a numbered condition, are kept
in one trie.  Conjunctions that begin alike share nodes, so a literal with which many
of them begin is looked at once.

A walk is given the literals that are present.  It takes a positive edge if its
literal is present and a negative edge if it is absent, and collects the conditions
at every node that it reaches.
-/

namespace LiteralLogic

/-- A numbered literal, with the choice whether letter case is ignored. -/
structure LiteralKey where
  id : Nat
  caseInsensitive : Bool
deriving DecidableEq, Hashable, Inhabited

/-- A numbered literal or its negation. -/
structure SignedKey where
  key : LiteralKey
  negated : Bool
deriving DecidableEq

/-- The literals that are present in an input. -/
abbrev Presence := Std.HashSet LiteralKey

/-- Whether a signed literal holds when the given literals are present. -/
def SignedKey.holds (present : Presence) (signed : SignedKey) : Bool :=
  present.contains signed.key != signed.negated

/-- Edges labelled with signed literals, kept apart by sign. -/
structure SignedEdges where
  positive : Std.HashMap LiteralKey Nat
  negative : Std.HashMap LiteralKey Nat

namespace SignedEdges

/-- The node that an edge leads to. -/
def child? (edges : SignedEdges) (signed : SignedKey) : Option Nat :=
  if signed.negated then edges.negative[signed.key]? else edges.positive[signed.key]?

/-- One edge more. -/
def add (edges : SignedEdges) (signed : SignedKey) (node : Nat) : SignedEdges :=
  match edges with
  | { positive, negative } =>
    if signed.negated then { positive, negative := negative.insert signed.key node }
    else { positive := positive.insert signed.key node, negative }

instance : Trie.Edges SignedEdges SignedKey where
  none := { positive := {}, negative := {} }
  child? := SignedEdges.child?
  add := SignedEdges.add

instance : Trie.LawfulEdges SignedEdges SignedKey where
  child?_none signed := by
    show SignedEdges.child? { positive := ∅, negative := ∅ } signed = none
    simp [SignedEdges.child?]
  child?_add_self edges signed node := by
    show (edges.add signed node).child? signed = some node
    by_cases h : signed.negated <;> simp [SignedEdges.add, SignedEdges.child?, h]
  child?_add_of_ne edges signed other node ne := by
    show (edges.add signed node).child? other = edges.child? other
    have keys : signed.negated = other.negated → signed.key ≠ other.key := by
      intro hs hk
      exact ne (by cases signed; cases other; simp_all)
    by_cases h : signed.negated <;> by_cases h' : other.negated <;>
      simp_all [SignedEdges.add, SignedEdges.child?, Std.HashMap.getElem?_insert]

/-- The nodes at the ends of the positive edges whose literal is present.  The
smaller of the two sets is searched. -/
def takePositive (edges : SignedEdges) (present : Presence) : List Nat :=
  if present.size < edges.positive.size then
    present.toList.filterMap fun key => edges.positive[key]?
  else
    edges.positive.toList.filterMap fun (key, node) =>
      if present.contains key then some node else none

/-- The nodes at the ends of the negative edges whose literal is absent. -/
def takeNegative (edges : SignedEdges) (present : Presence) : List Nat :=
  edges.negative.toList.filterMap fun (key, node) =>
    if present.contains key then none else some node

/-- The nodes at the ends of the edges that hold. -/
def take (edges : SignedEdges) (present : Presence) : List Nat :=
  edges.takePositive present ++ edges.takeNegative present

end SignedEdges

/-- A tree of conjunctions; a node is marked with the conditions that have a
conjunction ending there, latest first. -/
structure DecisionTree where
  trie : Trie SignedEdges (List Nat)

/-- What a walk finds: the conditions that hold, in ascending order, and the number
of nodes that were reached, the root included. -/
structure Walk where
  conditions : List Nat
  nodesVisited : Nat
deriving DecidableEq

namespace DecisionTree

/-- The tree without conjunctions. -/
def empty : DecisionTree :=
  { trie := Trie.empty }

/-- The number of nodes, the root included. -/
def nodeCount (tree : DecisionTree) : Nat :=
  tree.trie.size

/-- Notes a condition at a node, unless it was the last to be noted there. -/
def note (condition : Nat) (conditions : List Nat) : List Nat :=
  if conditions.head? = some condition then conditions else condition :: conditions

/-- The tree with one conjunction more, which belongs to a condition. -/
def insert (tree : DecisionTree) (path : List SignedKey) (condition : Nat) : DecisionTree :=
  { trie := tree.trie.insert path (note condition) }

/-- The conditions with a conjunction that holds when the given literals are
present. -/
def walk (tree : DecisionTree) (present : Presence) : Walk :=
  let reached := tree.trie.reach fun edges => edges.take present
  { conditions := ascending (compareOn id) (reached.flatMap tree.trie.mark)
    nodesVisited := reached.length }

end DecisionTree

end LiteralLogic
