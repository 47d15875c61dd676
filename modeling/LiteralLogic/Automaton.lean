import LiteralLogic.Trie
import Std.Data.TreeMap

/-!
# Finding many patterns in one pass

The automaton is a trie over all patterns in which every state also knows the
states of its proper suffixes: the parts of its path, from a later byte on, that are
beginnings of patterns themselves, longest first and down to the root.  A scan goes
along the trie, and where the trie has no edge it goes on from the longest suffix
that has one, so that no byte is read twice.

The outputs of a state are the patterns that end there, its own first and then those
of its longest proper suffix.  Empty patterns occur in every haystack and are
reported once, before the first byte.
-/

namespace LiteralLogic

/-- Edges labelled with bytes, in the order of the bytes. -/
abbrev ByteEdges := Std.TreeMap UInt8 Nat

instance : Trie.Edges ByteEdges UInt8 where
  none := {}
  child? edges byte := edges[byte]?
  add edges byte node := edges.insert byte node

instance : Trie.LawfulEdges ByteEdges UInt8 where
  child?_none byte := by
    show (∅ : ByteEdges)[byte]? = none
    simp
  child?_add_self _ _ _ := Std.TreeMap.getElem?_insert_self
  child?_add_of_ne edges a b node ne := by
    show (edges.insert a node)[b]? = edges[b]?
    simp [Std.TreeMap.getElem?_insert, ne]

/-- The trie of the patterns; a state is marked with the patterns that end there,
in ascending order. -/
abbrev PatternTrie := Trie ByteEdges (List Nat)

/-- For every state, the states of its proper suffixes, longest first, and the
patterns that end there. -/
structure SuffixLinks where
  suffixes : Array (List Nat)
  outputs : Array (List Nat)

namespace SuffixLinks

/-- The states of a state's proper suffixes, longest first. -/
def suffixesOf (links : SuffixLinks) (state : Nat) : List Nat :=
  links.suffixes.getD state []

/-- The patterns that end at a state. -/
def outputsOf (links : SuffixLinks) (state : Nat) : List Nat :=
  links.outputs.getD state []

/-- The state that `byte` leads to from the first of the states that has an edge
for it, or else the root. -/
def follow (trie : PatternTrie) (byte : UInt8) (states : List Nat) : Nat :=
  (states.findSome? (trie.child? · byte)).getD Trie.root

/-- Links the state `child`, which `byte` leads to from `parent`: its longest
proper suffix extends a proper suffix of the parent by the byte. -/
def link (trie : PatternTrie) (links : SuffixLinks) (parent : Nat) (byte : UInt8) (child : Nat) :
    SuffixLinks :=
  let longest := follow trie byte (links.suffixesOf parent)
  let suffixesOfChild := longest :: links.suffixesOf longest
  let outputsOfChild := trie.mark child ++ links.outputsOf longest
  match links with
  | { suffixes, outputs } =>
    { suffixes := suffixes.setIfInBounds child suffixesOfChild
      outputs := outputs.setIfInBounds child outputsOfChild }

/-- The edges out of the states of one level: parent, byte and child. -/
def edgesOf (trie : PatternTrie) (level : List Nat) : List (Nat × UInt8 × Nat) :=
  level.flatMap fun parent => (trie.edges parent).toList.map fun (byte, child) =>
    (parent, byte, child)

/-- Links the states of the next `height` levels below a level.  The suffixes of a
state lie on earlier levels, so that they are linked when they are needed. -/
def linkLevels (trie : PatternTrie) (links : SuffixLinks) : Nat → List Nat → SuffixLinks
  | 0, _ => links
  | height + 1, level =>
    let edges := edgesOf trie level
    let linked := edges.foldl (fun links (parent, byte, child) =>
      link trie links parent byte child) links
    linkLevels trie linked height (edges.map fun (_, _, child) => child)

/-- The links of a trie whose paths are at most `height` long. -/
def ofTrie (trie : PatternTrie) (height : Nat) : SuffixLinks :=
  linkLevels trie
    { suffixes := Array.replicate trie.size [], outputs := Array.replicate trie.size [] }
    height [Trie.root]

end SuffixLinks

/-- An automaton that finds the occurrences of patterns, which are numbered in the
order in which they were given. -/
structure Automaton where
  patternCount : Nat
  /-- The empty patterns. -/
  always : List Nat
  trie : PatternTrie
  links : SuffixLinks

namespace Automaton

/-- The trie of the patterns numbered from `id` on, put into a trie. -/
def addPatterns (trie : PatternTrie) (id : Nat) : List (List UInt8) → PatternTrie
  | [] => trie
  | [] :: patterns => addPatterns trie (id + 1) patterns
  | pattern :: patterns => addPatterns (trie.insert pattern (· ++ [id])) (id + 1) patterns

/-- The numbers of the empty patterns, counted from `id` on. -/
def emptyPatterns (id : Nat) : List (List UInt8) → List Nat
  | [] => []
  | [] :: patterns => id :: emptyPatterns (id + 1) patterns
  | _ :: patterns => emptyPatterns (id + 1) patterns

/-- The automaton of a list of patterns. -/
def ofPatterns (patterns : List (List UInt8)) : Automaton :=
  let trie := addPatterns Trie.empty 0 patterns
  let height := patterns.foldl (fun height pattern => max height pattern.length) 0
  { patternCount := patterns.length
    always := emptyPatterns 0 patterns
    trie := trie
    links := SuffixLinks.ofTrie trie height }

/-- The number of states, the root included. -/
def stateCount (automaton : Automaton) : Nat :=
  automaton.trie.size

/-- The state after a byte: the byte is followed from the state or else from the
longest of its proper suffixes where that is possible. -/
def step (automaton : Automaton) (state : Nat) (byte : UInt8) : Nat :=
  SuffixLinks.follow automaton.trie byte (state :: automaton.links.suffixesOf state)

/-- Combines the patterns that occur in a haystack, in the order in which a scan
reports them: the empty ones first, then at each byte the ones that end there, longer
ones before shorter ones. -/
def fold {β : Type} (automaton : Automaton) (combine : β → Nat → β) (initial : β)
    (haystack : List UInt8) : β :=
  let scanned := haystack.foldl (fun (state, found) byte =>
    let next := automaton.step state byte
    (next, (automaton.links.outputsOf next).foldl combine found))
    (Trie.root, automaton.always.foldl combine initial)
  scanned.2

/-- The patterns that occur in a haystack, as often as they occur, in the order in
which they are found. -/
def scan (automaton : Automaton) (haystack : List UInt8) : List Nat :=
  (automaton.fold (fun found id => id :: found) [] haystack).reverse

end Automaton

end LiteralLogic
