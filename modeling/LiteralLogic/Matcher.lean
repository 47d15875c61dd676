import LiteralLogic.Condition.Evaluation
import LiteralLogic.NormalForm.Path
import LiteralLogic.Parse
import LiteralLogic.Prefilter
import LiteralLogic.Query

/-!
# Matching many conditions at once

A matcher is compiled from a list of condition texts and tells which of them an
input satisfies.  Conditions are known by their positions in the list; an empty text
takes a position but is never satisfied.

Compilation stops at the first text that is no condition.  Otherwise the canonical
AND-paths of all conditions are put into one decision tree and their literals into
one prefilter, and matching an input is a search for the literals followed by a walk
through the tree.
-/

namespace LiteralLogic

/-- The sizes of a compiled set of conditions. -/
structure Stats where
  /-- The conditions, empty ones included. -/
  conditions : Nat
  /-- The empty conditions. -/
  empty : Nat
  /-- The distinct literals. -/
  literals : Nat
  /-- The distinct patterns of the literals. -/
  patterns : Nat
  /-- The AND-paths of all conditions. -/
  andPaths : Nat
  /-- The nodes of the decision tree. -/
  treeNodes : Nat
  /-- The states of the automaton. -/
  automatonStates : Nat
deriving DecidableEq

/-- A compiled set of conditions. -/
structure Matcher where
  folding : Folding
  /-- The conditions as they were read, none for an empty text. -/
  conditions : Array (Option Condition)
  registry : Registry
  tree : DecisionTree
  prefilter : Prefilter
  /-- The conditions none of whose AND-paths has a positive atom, in ascending order. -/
  negatives : List Nat
  stats : Stats

/-- What matching an input finds. -/
structure Run where
  /-- The conditions that the input satisfies, in ascending order. -/
  indices : List Nat
  /-- The number of distinct literals that are true of the input. -/
  literalsPresent : Nat
  /-- The number of tree nodes that were reached, the root included. -/
  nodesVisited : Nat
deriving DecidableEq

/-- A set of conditions while it is being compiled. -/
structure Compilation where
  conditions : Array (Option Condition)
  registry : Registry
  tree : DecisionTree
  /-- The conditions without positive atoms, latest first. -/
  negatives : List Nat
  empty : Nat
  andPaths : Nat

namespace Compilation

/-- The compilation of no conditions. -/
def start : Compilation :=
  { conditions := #[], registry := Registry.empty, tree := DecisionTree.empty
    negatives := [], empty := 0, andPaths := 0 }

/-- Puts the AND-paths of a condition into the tree and numbers their literals. -/
def threadPaths (index : Nat) (registry : Registry) (tree : DecisionTree) :
    List Term → Registry × DecisionTree
  | [] => (registry, tree)
  | path :: paths =>
    let (registry, keys) := registry.signedKeys path
    threadPaths index registry (tree.insert keys index) paths

/-- The compilation with an empty condition more. -/
def addEmpty (compilation : Compilation) : Compilation :=
  { compilation with
    conditions := compilation.conditions.push none, empty := compilation.empty + 1 }

/-- The compilation with one condition more, which has the given AND-paths. -/
def addCondition (compilation : Compilation) (condition : Condition) (paths : List Term) :
    Compilation :=
  match compilation with
  | { conditions, registry, tree, negatives, empty, andPaths } =>
    let index := conditions.size
    let (registry, tree) :=
      threadPaths index (registry.internAll condition.literals) tree paths
    { conditions := conditions.push (some condition), registry, tree
      negatives := if !paths.isEmpty && paths.all Term.isNegative then index :: negatives
        else negatives
      empty, andPaths := andPaths + paths.length }

/-- The compilation with one condition text more. -/
def add (compilation : Compilation) (text : String) : Except CompileError Compilation :=
  if text = "" then .ok compilation.addEmpty
  else
    let index := compilation.conditions.size
    match Condition.parse text with
    | .error error => .error ⟨index, .invalid error⟩
    | .ok condition =>
      match condition.normalize.andPaths with
      | .error cause => .error ⟨index, cause⟩
      | .ok paths => .ok (compilation.addCondition condition paths)

/-- Compiles the condition texts in their order. -/
def addAll (compilation : Compilation) : List String → Except CompileError Compilation
  | [] => .ok compilation
  | text :: texts =>
    match compilation.add text with
    | .error error => .error error
    | .ok compilation => compilation.addAll texts

/-- The matcher of the conditions that were compiled. -/
def finish (folding : Folding) (compilation : Compilation) : Matcher :=
  let prefilter := Prefilter.ofRegistry folding compilation.registry
  { folding, prefilter
    conditions := compilation.conditions
    registry := compilation.registry
    tree := compilation.tree
    negatives := compilation.negatives.reverse
    stats :=
      { conditions := compilation.conditions.size
        empty := compilation.empty
        literals := compilation.registry.size
        patterns := prefilter.patternCount
        andPaths := compilation.andPaths
        treeNodes := compilation.tree.nodeCount
        automatonStates := prefilter.stateCount } }

end Compilation

namespace Matcher

/-- Compiles condition texts, or tells which is the first that fails and why. -/
def compile (folding : Folding) (texts : List String) : Except CompileError Matcher :=
  match Compilation.start.addAll texts with
  | .ok compilation => .ok (compilation.finish folding)
  | .error error => .error error

/-- The number of conditions, empty ones included. -/
def size (matcher : Matcher) : Nat :=
  matcher.conditions.size

/-- The condition at a position as it was read; none for an empty text and for a
position beyond the last. -/
def condition? (matcher : Matcher) (index : Nat) : Option Condition :=
  (matcher.conditions[index]?).join

/-- Whether an input satisfies the condition at a position, by evaluating it
directly; none where there is no condition. -/
def evaluate? (matcher : Matcher) (index : Nat) (input : String) : Option Bool :=
  (matcher.condition? index).map fun condition =>
    condition.evaluate (Haystack.ofText matcher.folding input)

/-- Matches an input and tells what the search came across. -/
def run (matcher : Matcher) (input : String) : Run :=
  let present := matcher.prefilter.scan input
  let walk := matcher.tree.walk present
  { indices := walk.conditions
    literalsPresent := present.size
    nodesVisited := walk.nodesVisited }

/-- The conditions that an input satisfies, in ascending order. -/
def satisfied (matcher : Matcher) (input : String) : List Nat :=
  (matcher.tree.walk (matcher.prefilter.scan input)).conditions

/-- The query for the documents that satisfy at least one condition; none if all
conditions are empty. -/
def query (options : QueryOptions) (matcher : Matcher) : Option Query :=
  Query.ofConditions options (matcher.conditions.toList.filterMap id)

end Matcher

end LiteralLogic
