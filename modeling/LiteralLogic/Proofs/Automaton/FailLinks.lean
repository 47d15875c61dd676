import LiteralLogic.Automaton.FailLinks
import LiteralLogic.Proofs.Automaton
import LiteralLogic.Proofs.Automaton.Transitions
import Mathlib.Data.Set.Function
import Mathlib.Logic.Relation

/-!
# Falling back

The states of the automaton stand for the beginnings of the patterns, and a state falls back to
the state of the longest proper suffix of its path (`exists_failOf`).  That suffix is
shorter than the path, so falling back ends, at a state with an edge for the byte or else at
the root (`exists_fallsBackTo`); where it ends is where the automaton goes on from.

The same is true of links that are still being made: when an edge is linked, all states that
are no deeper than its parent have been linked for good (`exists_linkedTo_of_split`), and
falling back from the parent meets only such states.
-/

namespace LiteralLogic.Automaton

open SuffixLinks (FallsBack)

/-! ## States and paths -/

/-- The states of the automaton are found by these paths, and by no others. -/
def GivesPaths (patterns : List (List UInt8)) (pathOf : Nat → List UInt8) : Prop :=
  ∀ path state, (ofPatterns patterns).trie.find? path = some state ↔
    state < (ofPatterns patterns).stateCount ∧ pathOf state = path

theorem exists_givesPaths (patterns : List (List UInt8)) :
    ∃ pathOf, GivesPaths patterns pathOf := by
  obtain ⟨paths, spelled, -⟩ := exists_spelled_ofPatterns patterns
  have size : paths.length = (ofPatterns patterns).stateCount := spelled.length_eq
  refine ⟨fun state => paths.getD state [], fun path state => ?_⟩
  have listed : ∀ inside : state < paths.length, paths.getD state [] = paths[state] := by
    intro inside
    rw [List.getD_eq_getElem?_getD, List.getElem?_eq_getElem inside, Option.getD_some]
  rw [spelled.find?_iff, ← size, List.getElem?_eq_some_iff]
  constructor
  · intro h
    obtain ⟨inside, here⟩ := h
    exact ⟨inside, (listed inside).trans here⟩
  · intro h
    obtain ⟨inside, here⟩ := h
    exact ⟨inside, (listed inside).symm.trans here⟩

/-- Non-empty paths lead to states exactly if they are beginnings of patterns. -/
theorem exists_find?_iff {patterns : List (List UInt8)} {path : List UInt8}
    (nonempty : path ≠ []) :
    (∃ state, (ofPatterns patterns).trie.find? path = some state) ↔
      ∃ pattern ∈ patterns, path <+: pattern := by
  obtain ⟨paths, spelled, members⟩ := exists_spelled_ofPatterns patterns
  rw [← spelled.mem_iff, members, Trie.mem_beginnings, or_iff_right nonempty,
    and_iff_right nonempty]

section

variable {patterns : List (List UInt8)} {pathOf : Nat → List UInt8}

theorem GivesPaths.root (found : GivesPaths patterns pathOf) :
    Trie.root < (ofPatterns patterns).stateCount ∧ pathOf Trie.root = [] :=
  (found [] Trie.root).mp (Trie.find?_nil _)

theorem GivesPaths.find?_pathOf (found : GivesPaths patterns pathOf) {state : Nat}
    (inside : state < (ofPatterns patterns).stateCount) :
    (ofPatterns patterns).trie.find? (pathOf state) = some state :=
  (found _ state).mpr ⟨inside, rfl⟩

theorem GivesPaths.pathOf_ne_nil (found : GivesPaths patterns pathOf) {state : Nat}
    (inside : state < (ofPatterns patterns).stateCount) (notRoot : state ≠ Trie.root) :
    pathOf state ≠ [] := by
  intro nil
  have reached := found.find?_pathOf inside
  rw [nil, Trie.find?_nil] at reached
  exact notRoot (Option.some.inj reached).symm

/-- The states but the root are the distinct non-empty beginnings of the patterns. -/
theorem GivesPaths.bijOn (found : GivesPaths patterns pathOf) :
    Set.BijOn pathOf {state | state < (ofPatterns patterns).stateCount ∧ state ≠ Trie.root}
      {path | path ≠ [] ∧ ∃ pattern ∈ patterns, path <+: pattern} := by
  refine ⟨?_, ?_, ?_⟩
  · intro state h
    obtain ⟨inside, notRoot⟩ := h
    have nonempty := found.pathOf_ne_nil inside notRoot
    exact ⟨nonempty, (exists_find?_iff nonempty).mp ⟨state, found.find?_pathOf inside⟩⟩
  · intro state h state' h' same
    have reached := found.find?_pathOf h.1
    rw [same, found.find?_pathOf h'.1] at reached
    exact (Option.some.inj reached).symm
  · intro path h
    obtain ⟨nonempty, beginning⟩ := h
    obtain ⟨state, reached⟩ := (exists_find?_iff nonempty).mpr beginning
    obtain ⟨inside, rfl⟩ := (found path state).mp reached
    refine ⟨state, ⟨inside, ?_⟩, rfl⟩
    rintro rfl
    exact nonempty found.root.2

end

/-! ## Fail links -/

/-- A linked state other than the root falls back to the state of the longest proper suffix of
its path, and its further suffixes are those of that state. -/
theorem Linked.exists_failOf {patterns : List (List UInt8)} {trie : PatternTrie}
    {links : SuffixLinks} {path : List UInt8} {state : Nat}
    (linked : Linked patterns trie links path state) (nonempty : path ≠ []) :
    ∃ longest, LongestSuffix trie path.tail longest ∧
      trie.find? longest = some (links.failOf state) ∧ longest.length < path.length ∧
      links.suffixesOf state = links.failOf state :: properSuffixStates trie longest := by
  obtain ⟨byte, rest, rfl⟩ := List.exists_cons_of_ne_nil nonempty
  obtain ⟨longest, next, maximal, found, states⟩ := exists_suffixStates trie rest
  have suffixes : links.suffixesOf state = next :: properSuffixStates trie longest := by
    rw [linked.suffixes, ← states]
    rfl
  have fail : links.failOf state = next := by rw [SuffixLinks.failOf, suffixes]; rfl
  have bound := maximal.suffix.length_le
  refine ⟨longest, maximal, fail ▸ found, ?_, fail ▸ suffixes⟩
  rw [List.length_cons]
  omega

/-- Falling back from a state ends at another one. -/
def FallsBackTo (trie : PatternTrie) (links : SuffixLinks) (byte : UInt8) (state stop : Nat) :
    Prop :=
  Relation.ReflTransGen (FallsBack trie links byte) state stop ∧
    ((∃ next, trie.child? stop byte = some next) ∨ stop = Trie.root)

/-- Falling back from a state ends where the first of its suffixes has an edge, if all states
that are no deeper have been linked. -/
theorem exists_fallsBackTo {patterns : List (List UInt8)} {trie : PatternTrie}
    {links : SuffixLinks} {depth : Nat} (holds : HoldsPatterns patterns trie)
    (linked : ∀ path state, trie.find? path = some state → path.length ≤ depth →
      Linked patterns trie links path state)
    {path : List UInt8} {state : Nat} (found : trie.find? path = some state)
    (bound : path.length ≤ depth) (byte : UInt8) :
    ∃ stop, FallsBackTo trie links byte state stop ∧
      SuffixLinks.follow trie byte (state :: links.suffixesOf state) =
        (trie.child? stop byte).getD Trie.root := by
  -- each fall leads to a shorter path
  induction size : path.length using Nat.strongRecOn generalizing path state with
  | ind n ih =>
    subst n
    cases edge : trie.child? state byte with
    | some next =>
      refine ⟨state, ⟨.refl, .inl ⟨next, edge⟩⟩, ?_⟩
      simp [SuffixLinks.follow, edge]
    | none =>
      by_cases nil : path = []
      · subst nil
        obtain rfl : Trie.root = state := Option.some.inj found
        refine ⟨Trie.root, ⟨.refl, .inr rfl⟩, ?_⟩
        have suffixes := (linked [] Trie.root found bound).suffixes
        simp [SuffixLinks.follow, edge, suffixes, properSuffixStates]
      · obtain ⟨longest, -, target, shorter, suffixes⟩ :=
          (linked path state found bound).exists_failOf nil
        have fewer : longest.length ≤ depth := by omega
        have further := (linked longest _ target fewer).suffixes
        obtain ⟨stop, ⟨falls, ends⟩, goesOn⟩ := ih longest.length shorter target fewer rfl
        have notRoot : state ≠ Trie.root := by
          rintro rfl
          obtain ⟨paths, spelled⟩ := holds.spelled
          exact nil (spelled.find?_inj found (Trie.find?_nil trie))
        refine ⟨stop, ⟨.head (.fall edge notRoot) falls, ends⟩, ?_⟩
        rw [← goesOn, suffixes, further]
        simp [SuffixLinks.follow, edge]

/-! ## While links are being made -/

/-- When an edge is linked, all states that are no deeper than its parent have been linked. -/
theorem exists_linkedTo_of_split {patterns : List (List UInt8)} {trie : PatternTrie}
    (holds : HoldsPatterns patterns trie) {links : SuffixLinks} {depth : Nat}
    (before : LinkedTo patterns trie links depth) (height : Nat) {level : List Nat}
    (members : ∀ state, state ∈ level ↔
      ∃ path, trie.find? path = some state ∧ path.length = depth)
    {done after : List (Nat × UInt8 × Nat)} {parent child : Nat} {byte : UInt8}
    (split : SuffixLinks.edgesBelow trie height level = done ++ (parent, byte, child) :: after) :
    ∃ path, trie.find? path = some parent ∧ trie.child? parent byte = some child ∧
      LinkedTo patterns trie (SuffixLinks.linkAll trie links done) path.length := by
  induction height generalizing links depth level done with
  | zero => simp [SuffixLinks.edgesBelow] at split
  | succ height ih =>
    have next := before.level holds members
    rw [SuffixLinks.edgesBelow, List.append_eq_append_iff] at split
    -- the edge is on a deeper level, or on this one
    rcases split with ⟨further, rfl, split⟩ | ⟨rest, split, behind⟩
    · rw [SuffixLinks.linkAll, List.foldl_append]
      exact ih next (mem_map_edgesOf_iff members) split
    cases rest with
    | nil =>
      -- it is the first one of the next level
      rw [List.append_nil] at split
      subst split
      rw [List.nil_append] at behind
      rw [← List.nil_append (_ :: after)] at behind
      exact ih next (mem_map_edgesOf_iff members) behind.symm
    | cons first rest =>
      cases behind
      have genuine := exists_path_of_mem_edgesOf members
      rw [split] at genuine
      obtain ⟨path, found, deep, edge⟩ := genuine parent byte child (by simp)
      obtain ⟨between, -, -⟩ := before.foldl_link holds
        (fun parent byte child mem => genuine parent byte child (List.mem_append_left _ mem)) rfl
      exact ⟨path, found, edge, deep ▸ between⟩

/-- What linking a child finds: the fail link of its parent has been made for good, falling back
from there ends where the fail link of the child is, and the outputs that the child inherits are
complete. -/
structure FindsFinal (patterns : List (List UInt8)) (links : SuffixLinks) (parent : Nat)
    (byte : UInt8) (child : Nat) : Prop where
  start : links.failOf parent = (ofPatterns patterns).links.failOf parent
  falls : ∃ stop, FallsBackTo (ofPatterns patterns).trie links byte (links.failOf parent) stop ∧
    (ofPatterns patterns).links.failOf child =
      ((ofPatterns patterns).trie.child? stop byte).getD Trie.root
  inherited : links.outputsOf ((ofPatterns patterns).links.failOf child) =
    (ofPatterns patterns).links.outputsOf ((ofPatterns patterns).links.failOf child)

theorem LinkedTo.findsFinal {patterns : List (List UInt8)} {links : SuffixLinks}
    {path : List UInt8} {parent child : Nat} {byte : UInt8}
    (linkedTo : LinkedTo patterns (ofPatterns patterns).trie links path.length)
    (found : (ofPatterns patterns).trie.find? path = some parent) (nonempty : path ≠ [])
    (edge : (ofPatterns patterns).trie.child? parent byte = some child) :
    FindsFinal patterns links parent byte child := by
  have known := linkedTo.linked path parent found (Nat.le_refl _)
  have final := linked_ofPatterns patterns found
  have reached := (Trie.Spelled.child?_iff found byte child).mp edge
  -- the suffixes of the child begin with the state to which the byte leads from those of the parent
  obtain ⟨extended, maximal, target, states⟩ :=
    follow_properSuffixStates (ofPatterns patterns).trie path byte
  have fail : (ofPatterns patterns).links.failOf child =
      SuffixLinks.follow (ofPatterns patterns).trie byte (links.suffixesOf parent) := by
    rw [SuffixLinks.failOf, (linked_ofPatterns patterns reached).suffixes, states, known.suffixes]
    rfl
  refine ⟨?_, ?_, ?_⟩
  · rw [SuffixLinks.failOf, SuffixLinks.failOf, known.suffixes, final.suffixes]
  · obtain ⟨longest, -, parentFail, shorter, suffixes⟩ := known.exists_failOf nonempty
    have fewer := Nat.le_of_lt shorter
    obtain ⟨stop, falls, goesOn⟩ := exists_fallsBackTo (holdsPatterns_ofPatterns patterns)
      linkedTo.linked parentFail fewer byte
    rw [(linkedTo.linked longest _ parentFail fewer).suffixes, ← suffixes] at goesOn
    exact ⟨stop, falls, fail.trans goesOn⟩
  · have shallow : extended.length ≤ path.length := by
      have bound := maximal.suffix.length_le
      rw [List.length_tail, List.length_append, List.length_singleton] at bound
      omega
    rw [← known.suffixes, ← fail] at target
    rw [(linkedTo.linked extended _ target shallow).outputs,
      (linked_ofPatterns patterns target).outputs]

/-! ## All states -/

/-- What a state knows when `pathOf` gives the paths of the states: its transitions, which stand
in a row strictly ascending by byte and are found there by binary search, lead to the paths that
are one byte longer, and its outputs are the non-empty patterns at the end of its path, each
before the shorter ones and equal ones by their numbers. -/
structure Knows (patterns : List (List UInt8)) (pathOf : Nat → List UInt8) (state : Nat) :
    Prop where
  row : ((rows patterns).edges state).entries.toList = (ofPatterns patterns).transitions state
  ascending : ((ofPatterns patterns).transitions state).Pairwise (·.1 < ·.1)
  mem_transitions_iff : ∀ byte next, (byte, next) ∈ (ofPatterns patterns).transitions state ↔
    next < (ofPatterns patterns).stateCount ∧ pathOf next = pathOf state ++ [byte]
  goto_eq_some_iff : ∀ byte next, ((rows patterns).edges state).goto byte = some next ↔
    (byte, next) ∈ (ofPatterns patterns).transitions state
  outputs_pairwise :
    ((ofPatterns patterns).links.outputsOf state).Pairwise (Precedes patterns)
  mem_outputs_iff : ∀ id, id ∈ (ofPatterns patterns).links.outputsOf state ↔
    ∃ pattern, patterns[id]? = some pattern ∧ pattern ≠ [] ∧ pattern <:+ pathOf state

/-- The fail link of a state leads to a state that is less deep, and its path is the longest
proper suffix of the state's path among the beginnings of patterns. -/
structure FallsToLongest (patterns : List (List UInt8)) (pathOf : Nat → List UInt8)
    (state : Nat) : Prop where
  inside : (ofPatterns patterns).links.failOf state < (ofPatterns patterns).stateCount
  isSuffix : pathOf ((ofPatterns patterns).links.failOf state) <:+ pathOf state
  shorter : (pathOf ((ofPatterns patterns).links.failOf state)).length < (pathOf state).length
  longest : ∀ suffix, suffix <:+ pathOf state → suffix ≠ pathOf state →
    (∃ pattern ∈ patterns, suffix <+: pattern) →
    suffix.length ≤ (pathOf ((ofPatterns patterns).links.failOf state)).length

section

variable {patterns : List (List UInt8)} {pathOf : Nat → List UInt8} {state : Nat}

theorem GivesPaths.knows (found : GivesPaths patterns pathOf)
    (inside : state < (ofPatterns patterns).stateCount) : Knows patterns pathOf state := by
  have reached := found.find?_pathOf inside
  have outputs := (linked_ofPatterns patterns reached).outputs
  have lists := (sameTransitions_rows patterns).lists state
  have listed : ((rows patterns).edges state).entries.toList =
      (ofPatterns patterns).transitions state := lists
  have edge : ∀ byte next, (byte, next) ∈ (ofPatterns patterns).transitions state ↔
      (ofPatterns patterns).trie.child? state byte = some next := by
    intro byte next
    exact listed ▸ lists.mem_iff
  refine ⟨listed, listed ▸ lists.ascending, fun byte next => ?_, fun byte next => ?_, ?_,
    fun id => ?_⟩
  · rw [edge, Trie.Spelled.child?_iff reached, found]
  · rw [lists.goto_eq, edge]
    rfl
  · rw [outputs]
    exact pairwise_patternsEnding patterns _
  · rw [outputs]
    exact mem_patternsEnding

theorem GivesPaths.fallsToLongest (found : GivesPaths patterns pathOf)
    (inside : state < (ofPatterns patterns).stateCount) (notRoot : state ≠ Trie.root) :
    FallsToLongest patterns pathOf state := by
  have nonempty := found.pathOf_ne_nil inside notRoot
  have reached := found.find?_pathOf inside
  obtain ⟨longest, maximal, target, shorter, -⟩ :=
    (linked_ofPatterns patterns reached).exists_failOf nonempty
  obtain ⟨failInside, rfl⟩ := (found longest _).mp target
  refine ⟨failInside, maximal.suffix.trans (List.tail_suffix _), shorter, ?_⟩
  intro suffix isSuffix proper beginning
  obtain ⟨byte, rest, path⟩ := List.exists_cons_of_ne_nil nonempty
  rw [path] at isSuffix proper maximal
  have inRest : suffix <:+ rest := (List.suffix_cons_iff.mp isSuffix).resolve_left proper
  by_cases nil : suffix = []
  · exact nil ▸ Nat.zero_le _
  · have known := (exists_find?_iff nil).mpr beginning
    exact (maximal.longest suffix inRest known).length_le

end

/-- The states of an automaton but the root are the distinct non-empty beginnings of its
patterns, and the root is the empty one.  Each state knows its transitions and outputs, and each
but the root falls back to its longest proper suffix that is a beginning, which is shorter, so
that falling back ends: when a byte is scanned from any state, and when the edges are linked one
after the other, where only links are met that have been made for good. -/
theorem states_ofPatterns (patterns : List (List UInt8)) :
    ∃ pathOf : Nat → List UInt8,
      pathOf Trie.root = [] ∧ Trie.root < (ofPatterns patterns).stateCount ∧
      Set.BijOn pathOf {state | state < (ofPatterns patterns).stateCount ∧ state ≠ Trie.root}
        {path | path ≠ [] ∧ ∃ pattern ∈ patterns, path <+: pattern} ∧
      (∀ state < (ofPatterns patterns).stateCount, Knows patterns pathOf state) ∧
      (∀ state < (ofPatterns patterns).stateCount, state ≠ Trie.root →
        FallsToLongest patterns pathOf state) ∧
      (∀ state < (ofPatterns patterns).stateCount, ∀ byte, ∃ stop,
        FallsBackTo (ofPatterns patterns).trie (ofPatterns patterns).links byte state stop ∧
        (ofPatterns patterns).step state byte =
          ((ofPatterns patterns).trie.child? stop byte).getD Trie.root) ∧
      (ofPatterns patterns).links = SuffixLinks.linkAll (ofPatterns patterns).trie
        (.unlinked (ofPatterns patterns).trie) (linkOrder patterns) ∧
      ∀ done parent byte child after,
        linkOrder patterns = done ++ (parent, byte, child) :: after → parent ≠ Trie.root →
        FindsFinal patterns (SuffixLinks.linkAll (ofPatterns patterns).trie
          (.unlinked (ofPatterns patterns).trie) done) parent byte child := by
  obtain ⟨pathOf, found⟩ := exists_givesPaths patterns
  have holds := holdsPatterns_ofPatterns patterns
  refine ⟨pathOf, found.root.2, found.root.1, found.bijOn, fun _ => found.knows,
    fun _ => found.fallsToLongest, fun state inside byte => ?_, links_ofPatterns patterns, ?_⟩
  · exact exists_fallsBackTo holds (fun _ _ found _ => linked_ofPatterns patterns found)
      (found.find?_pathOf inside) (Nat.le_refl _) byte
  · intro done parent byte child after split notRoot
    obtain ⟨path, reached, edge, linkedTo⟩ :=
      exists_linkedTo_of_split holds (linkedTo_zero patterns) _ (mem_root_iff _) split
    obtain ⟨inside, rfl⟩ := (found path parent).mp reached
    exact linkedTo.findsFinal reached (found.pathOf_ne_nil inside notRoot) edge

end LiteralLogic.Automaton
