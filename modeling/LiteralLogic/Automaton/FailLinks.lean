import LiteralLogic.Automaton

/-!
# Fail links

The state that a state falls back to when it has no transition for a byte.  The states of all
proper suffixes are found by falling back again and again.  Links are made by linking the edges
of the trie one after the other, level by level.
-/

namespace LiteralLogic

namespace SuffixLinks

/-- The state of the longest proper suffix; the root is its own. -/
def failOf (links : SuffixLinks) (state : Nat) : Nat :=
  (links.suffixesOf state).headD Trie.root

/-- A state has no edge for a byte, so that it falls back to the next one. -/
inductive FallsBack (trie : PatternTrie) (links : SuffixLinks) (byte : UInt8) : Nat → Nat → Prop
  | fall {state : Nat} :
    trie.child? state byte = none → state ≠ Trie.root →
    FallsBack trie links byte state (links.failOf state)

/-- No state has been linked. -/
def unlinked (trie : PatternTrie) : SuffixLinks :=
  { suffixes := Array.replicate trie.size [], outputs := Array.replicate trie.size [] }

/-- The links when these edges, each from a parent over a byte to a child, have been linked
one after the other. -/
def linkAll (trie : PatternTrie) (links : SuffixLinks) (edges : List (Nat × UInt8 × Nat)) :
    SuffixLinks :=
  edges.foldl (fun links (parent, byte, child) => link trie links parent byte child) links

/-- The edges on the next `height` levels below a level, level by level. -/
def edgesBelow (trie : PatternTrie) : Nat → List Nat → List (Nat × UInt8 × Nat)
  | 0, _ => []
  | height + 1, level =>
    let edges := edgesOf trie level
    edges ++ edgesBelow trie height (edges.map fun (_, _, child) => child)

theorem linkLevels_eq_linkAll (trie : PatternTrie) (links : SuffixLinks) (height : Nat)
    (level : List Nat) :
    linkLevels trie links height level = linkAll trie links (edgesBelow trie height level) := by
  induction height generalizing links level with
  | zero => rfl
  | succ height ih => rw [linkLevels, ih, edgesBelow, linkAll, linkAll, List.foldl_append]

end SuffixLinks

namespace Automaton

/-- All edges between the states of some patterns, in the order in which they are linked. -/
def linkOrder (patterns : List (List UInt8)) : List (Nat × UInt8 × Nat) :=
  SuffixLinks.edgesBelow (ofPatterns patterns).trie
    (patterns.foldl (fun height pattern => max height pattern.length) 0) [Trie.root]

/-- Linking the edges in this order makes the links of the automaton. -/
theorem links_ofPatterns (patterns : List (List UInt8)) :
    (ofPatterns patterns).links =
      SuffixLinks.linkAll (ofPatterns patterns).trie
        (SuffixLinks.unlinked (ofPatterns patterns).trie) (linkOrder patterns) :=
  SuffixLinks.linkLevels_eq_linkAll ..

end Automaton

end LiteralLogic
