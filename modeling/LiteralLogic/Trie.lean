/-!
# Tries in an array

A trie shares the common beginnings of the paths that are inserted into it.  Its
nodes are numbered in the order of their creation, the root first, and each holds
its edges and a mark that says what ends there.  How a node keeps its edges is left
to the class `Trie.Edges`, so that tries over bytes and tries over signed literals
are one structure.

`Trie.find?` is the view: it follows a path from the root.
-/

namespace LiteralLogic

/-- Collections of edges: a finite map from labels to node numbers. -/
class Trie.Edges (ε : Type) (α : outParam Type) where
  /-- No edges. -/
  none : ε
  /-- The node that an edge leads to. -/
  child? : ε → α → Option Nat
  /-- One edge more. -/
  add : ε → α → Nat → ε

/-- What makes collections of edges maps: an edge that was added is found, and the
others are as before. -/
class Trie.LawfulEdges (ε : Type) (α : outParam Type) [Trie.Edges ε α] : Prop where
  child?_none (a : α) : Trie.Edges.child? (Trie.Edges.none : ε) a = .none
  child?_add_self (edges : ε) (a : α) (node : Nat) :
    Trie.Edges.child? (Trie.Edges.add edges a node) a = some node
  child?_add_of_ne (edges : ε) {a b : α} (node : Nat) (ne : a ≠ b) :
    Trie.Edges.child? (Trie.Edges.add edges a node) b = Trie.Edges.child? edges b

/-- A node of a trie. -/
structure TrieNode (ε μ : Type) where
  edges : ε
  mark : μ

/-- A trie; the node numbered zero is the root. -/
structure Trie (ε μ : Type) where
  nodes : Array (TrieNode ε μ)

namespace Trie

variable {ε α μ : Type} [Edges ε α] [Inhabited μ]

/-- A node without edges and with nothing to say. -/
def freshNode : TrieNode ε μ :=
  { edges := Edges.none, mark := default }

/-- The trie that has a root only. -/
def empty : Trie ε μ :=
  { nodes := #[freshNode] }

/-- The number of the root. -/
def root : Nat := 0

/-- The number of nodes, the root included. -/
def size (trie : Trie ε μ) : Nat :=
  trie.nodes.size

/-- The edges out of a node. -/
def edges (trie : Trie ε μ) (node : Nat) : ε :=
  match trie.nodes[node]? with
  | some found => found.edges
  | .none => Edges.none

/-- The mark of a node. -/
def mark (trie : Trie ε μ) (node : Nat) : μ :=
  match trie.nodes[node]? with
  | some found => found.mark
  | .none => default

/-- The node that an edge labelled `a` leads to from a node. -/
def child? (trie : Trie ε μ) (node : Nat) (a : α) : Option Nat :=
  Edges.child? (trie.edges node) a

/-- The trie with a new node at the end of a new edge. -/
def grow (trie : Trie ε μ) (node : Nat) (a : α) : Trie ε μ :=
  let fresh := trie.size
  { nodes := (trie.nodes.modify node fun found =>
      { found with edges := Edges.add found.edges a fresh }).push freshNode }

/-- The trie with the mark of a node changed. -/
def changeMark (trie : Trie ε μ) (node : Nat) (change : μ → μ) : Trie ε μ :=
  { nodes := trie.nodes.modify node fun found => { found with mark := change found.mark } }

/-- Inserts a path below a node and changes the mark at its end. -/
def insertFrom (trie : Trie ε μ) (node : Nat) (change : μ → μ) : List α → Trie ε μ
  | [] => trie.changeMark node change
  | a :: path =>
    match trie.child? node a with
    | some next => trie.insertFrom next change path
    | .none =>
      let fresh := trie.size
      (trie.grow node a).insertFrom fresh change path

/-- Inserts a path and changes the mark at its end. -/
def insert (trie : Trie ε μ) (path : List α) (change : μ → μ) : Trie ε μ :=
  trie.insertFrom root change path

/-- The node at the end of a path below a node. -/
def findFrom? (trie : Trie ε μ) (node : Nat) : List α → Option Nat
  | [] => some node
  | a :: path =>
    match trie.child? node a with
    | some next => trie.findFrom? next path
    | .none => .none

/-- The node at the end of a path. -/
def find? (trie : Trie ε μ) (path : List α) : Option Nat :=
  trie.findFrom? root path

/-- The nodes that are reached from the nodes of one generation in at most
`generations` generations, when `follow` picks the edges that may be taken. -/
def reachFrom (trie : Trie ε μ) (follow : ε → List Nat) : Nat → List Nat → List Nat
  | 0, _ => []
  | _ + 1, [] => []
  | generations + 1, nodes =>
    nodes ++ trie.reachFrom follow generations (nodes.flatMap fun node => follow (trie.edges node))

/-- The nodes that are reached from the root along the edges that `follow` picks.
No path is longer than there are nodes. -/
def reach (trie : Trie ε μ) (follow : ε → List Nat) : List Nat :=
  trie.reachFrom follow trie.size [root]

end Trie

end LiteralLogic
