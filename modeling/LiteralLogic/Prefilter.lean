import LiteralLogic.Automaton
import LiteralLogic.Haystack
import LiteralLogic.Registry
import LiteralLogic.Text.Utf8

/-!
# Finding the literals of an input

The prefilter searches an input for all registered literals at once.  Every literal
stands for a pattern: its text, or its folded text if letter case is ignored; and
literals with one pattern share it.  The input is scanned as it is for the literals
with case and folded for those without, each scan only if there are such literals.
-/

namespace LiteralLogic

/-- The distinct patterns in the order of first sight, and for each the literals
that stand for it, latest first. -/
structure PatternTable where
  ids : Std.HashMap String Nat
  patterns : Array String
  targets : Array (List LiteralKey)

namespace PatternTable

/-- The table without patterns. -/
def empty : PatternTable :=
  { ids := {}, patterns := #[], targets := #[] }

/-- The table with one literal more that stands for a pattern. -/
def add (table : PatternTable) (pattern : String) (key : LiteralKey) : PatternTable :=
  match table with
  | { ids, patterns, targets } =>
    match ids[pattern]? with
    | some id => { ids, patterns, targets := targets.modify id (key :: ·) }
    | none =>
      { ids := ids.insert pattern patterns.size
        patterns := patterns.push pattern
        targets := targets.push [key] }

/-- The table of the literals numbered from `id` on. -/
def addLiterals (folding : Folding) (table : PatternTable) (id : Nat) :
    List Literal → PatternTable
  | [] => table
  | literal :: literals =>
    addLiterals folding
      (table.add (literal.pattern folding) { id, caseInsensitive := literal.caseInsensitive })
      (id + 1) literals

end PatternTable

/-- The search for all literals of a registry. -/
structure Prefilter where
  folding : Folding
  /-- The automaton of the patterns; none if there are no literals. -/
  automaton : Option Automaton
  /-- The literals that stand for each pattern. -/
  targets : Array (List LiteralKey)
  /-- Whether a literal with case is registered. -/
  sensitive : Bool
  /-- Whether a literal without case is registered. -/
  insensitive : Bool

namespace Prefilter

/-- The search for the literals of a registry. -/
def ofRegistry (folding : Folding) (registry : Registry) : Prefilter :=
  let literals := registry.literals.toList
  let table := PatternTable.empty.addLiterals folding 0 literals
  let patterns := table.patterns.toList.map fun pattern => Text.utf8 pattern.toList
  { folding
    automaton := if patterns.isEmpty then none else some (Automaton.ofPatterns patterns)
    targets := table.targets
    sensitive := literals.any fun literal => !literal.caseInsensitive
    insensitive := literals.any Literal.caseInsensitive }

/-- The number of distinct patterns. -/
def patternCount (prefilter : Prefilter) : Nat :=
  match prefilter.automaton with
  | some automaton => automaton.patternCount
  | none => 0

/-- The number of states of the automaton; zero without one. -/
def stateCount (prefilter : Prefilter) : Nat :=
  match prefilter.automaton with
  | some automaton => automaton.stateCount
  | none => 0

/-- Adds the literals of one case class that stand for a pattern. -/
def addTargets (prefilter : Prefilter) (caseInsensitive : Bool) (present : Presence)
    (pattern : Nat) : Presence :=
  (prefilter.targets.getD pattern []).foldl (fun present key =>
    if key.caseInsensitive = caseInsensitive then present.insert key else present) present

/-- Adds the literals of one case class whose patterns occur in a text. -/
def scanClass (prefilter : Prefilter) (automaton : Automaton) (caseInsensitive : Bool)
    (present : Presence) (text : List Char) : Presence :=
  automaton.fold (prefilter.addTargets caseInsensitive) present (Text.utf8 text)

/-- The registered literals that are true of an input. -/
def scan (prefilter : Prefilter) (input : String) : Presence :=
  match prefilter.automaton with
  | none => {}
  | some automaton =>
    let present : Presence := {}
    let present :=
      if prefilter.sensitive then prefilter.scanClass automaton false present input.toList
      else present
    if prefilter.insensitive then
      prefilter.scanClass automaton true present (prefilter.folding.foldChars input.toList)
    else present

end Prefilter

end LiteralLogic
