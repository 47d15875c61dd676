import LiteralLogic.Proofs.Matcher.Contents
import LiteralLogic.Proofs.Matcher.Refusal

/-!
# The sizes of a matcher

Every size that a matcher reports is a count of what stands in the texts, each distinct
thing once: literals, patterns, beginnings of paths and beginnings of patterns.  The number
of AND-paths alone counts repetitions, and follows from the conditions as they were read.
-/

namespace LiteralLogic

/-! ## Patterns -/

namespace PatternTable

/-- A table gets the pattern of a literal that is added, if it has not got it already. -/
theorem Lists.mem_patterns_add {table : PatternTable} {entries : List (String × LiteralKey)}
    (h : table.Lists entries) {pattern other : String} (key : LiteralKey) :
    other ∈ (table.add pattern key).patterns ↔ other ∈ table.patterns ∨ other = pattern := by
  rcases table with ⟨ids, patterns, targets⟩
  unfold PatternTable.add
  cases known : ids[pattern]? with
  | some id =>
    have listed : pattern ∈ patterns :=
      Array.mem_of_getElem? ((h.numbered pattern id).mp known)
    simp only [known]
    refine (or_iff_left_of_imp ?_).symm
    rintro rfl
    exact listed
  | none =>
    simp only [known, Array.mem_push]

theorem Lists.mem_patterns_addLiterals {table : PatternTable}
    {entries : List (String × LiteralKey)} (h : table.Lists entries) (folding : Folding)
    (id : Nat) (literals : List Literal) {other : String} :
    other ∈ (table.addLiterals folding id literals).patterns ↔
      other ∈ table.patterns ∨ other ∈ literals.map (Literal.pattern folding) := by
  induction literals generalizing table entries id with
  | nil => simp [PatternTable.addLiterals]
  | cons literal literals ih =>
    rw [PatternTable.addLiterals, ih (h.add _ _), h.mem_patterns_add, List.map_cons,
      List.mem_cons, or_assoc]

end PatternTable

namespace Prefilter

/-- The table of a registry has the patterns of its literals, each once. -/
theorem exists_table (folding : Folding) {registry : Registry} {listed : List Literal}
    (members : ∀ literal, literal ∈ registry.literals ↔ literal ∈ listed) :
    ∃ patterns : Array String,
      patterns.size = (listed.map (Literal.pattern folding)).toFinset.card ∧
      (∀ pattern, pattern ∈ patterns ↔ pattern ∈ listed.map (Literal.pattern folding)) ∧
      (ofRegistry folding registry).automaton =
        if patterns.isEmpty then none
        else some (Automaton.ofPatterns
          (patterns.toList.map fun pattern => Text.utf8 pattern.toList)) := by
  have lists :=
    PatternTable.lists_empty.addLiterals folding 0 registry.literals.toList
  have mem : ∀ pattern, pattern ∈
      (PatternTable.empty.addLiterals folding 0 registry.literals.toList).patterns ↔
        pattern ∈ listed.map (Literal.pattern folding) := by
    intro pattern
    rw [PatternTable.lists_empty.mem_patterns_addLiterals]
    simp [PatternTable.empty, members]
  refine ⟨_, lists.numbered.size_eq_card mem, mem, ?_⟩
  simp [ofRegistry]

variable {folding : Folding} {registry : Registry} {listed : List Literal}

/-- Literals that fold alike share a pattern. -/
theorem patternCount_ofRegistry
    (members : ∀ literal, literal ∈ registry.literals ↔ literal ∈ listed) :
    (ofRegistry folding registry).patternCount =
      (listed.map (Literal.pattern folding)).toFinset.card := by
  rcases exists_table folding members with ⟨patterns, size, -, automaton⟩
  rw [patternCount, automaton, ← size]
  by_cases empty : patterns = #[]
  · simp [empty]
  · simp [empty, Automaton.ofPatterns]

/-- Without literals there is no automaton; otherwise it has a state for each beginning of a
pattern, and the root. -/
theorem stateCount_ofRegistry
    (members : ∀ literal, literal ∈ registry.literals ↔ literal ∈ listed) :
    (ofRegistry folding registry).stateCount =
      if listed = [] then 0
      else 1 + (Trie.beginnings (listed.map fun literal =>
        Text.utf8 (literal.pattern folding).toList)).card := by
  rcases exists_table folding members with ⟨patterns, -, mem, automaton⟩
  rw [stateCount, automaton]
  by_cases empty : listed = []
  · have none : patterns = #[] := by
      rw [Array.eq_empty_iff_forall_not_mem]
      intro pattern
      simp [mem, empty]
    simp [empty, none]
  · rcases List.exists_mem_of_ne_nil listed empty with ⟨literal, known⟩
    have some : patterns ≠ #[] := by
      rintro rfl
      exact Array.not_mem_empty _ ((mem _).mpr (List.mem_map_of_mem known))
    have same : Trie.beginnings (patterns.toList.map fun pattern => Text.utf8 pattern.toList) =
        Trie.beginnings (listed.map fun literal => Text.utf8 (literal.pattern folding).toList) := by
      apply Trie.beginnings_congr
      intro path
      simp [mem]
    simp [empty, some, Automaton.stateCount_ofPatterns, same]

end Prefilter

/-! ## Sizes -/

namespace Matcher

/-- The sizes of a matcher, counted in its texts.  The literals are numbered as the texts
have them one after another, so the paths that are put into the tree take no further number. -/
theorem stats_eq_counts {folding : Folding} {texts : List String} {matcher : Matcher}
    (compiled : compile folding texts = .ok matcher) :
    matcher.registry = Registry.empty.internAll (literalsOf texts) ∧
      matcher.stats =
        { conditions := texts.length
          empty := texts.count ""
          literals := (literalsOf texts).toFinset.card
          patterns := ((literalsOf texts).map (Literal.pattern folding)).toFinset.card
          andPaths := ((conditionsOf texts).map (Condition.termCount true)).sum
          treeNodes := 1 + (Trie.beginnings (pathsOf texts)).card
          automatonStates :=
            if literalsOf texts = [] then 0
            else 1 + (Trie.beginnings ((literalsOf texts).map fun literal =>
              Text.utf8 (literal.pattern folding).toList)).card } := by
  rcases exists_gathers compiled with
    ⟨compilation, inserts, compiles, gathers, tree, rows, rfl⟩
  have nodes : compilation.tree.nodeCount = 1 + (Trie.beginnings (pathsOf texts)).card := by
    rw [tree, DecisionTree.nodeCount_ofInserts, rows, Trie.beginnings_map,
      Finset.card_image_of_injOn gathers.injOn_beginnings]
  refine ⟨gathers.registry_eq, (Stats.mk.injEq ..).mpr ⟨?_, ?_, ?_, ?_, ?_, ?_, ?_⟩⟩
  · exact compiles.size_eq
  · exact gathers.empty_eq
  · exact compiles.consistent.size_eq_card gathers.mem_literals_iff
  · exact Prefilter.patternCount_ofRegistry gathers.mem_literals_iff
  · exact gathers.andPaths_eq
  · exact nodes
  · exact Prefilter.stateCount_ofRegistry gathers.mem_literals_iff

/-- Two literals that fold alike, a disjunction that is multiplied out, a path that comes twice,
and an empty text. -/
theorem stats_of_shared_path : ∃ matcher,
    compile .ascii ["(\"a\" OR \"A\"i) AND \"c\"", "", "\"c\" AND \"a\""] = .ok matcher ∧
      matcher.stats =
        { conditions := 3, empty := 1, literals := 3, patterns := 2, andPaths := 3
          treeNodes := 5, automatonStates := 3 } := by
  have read : Condition.parse "(\"a\" OR \"A\"i) AND \"c\"" =
      .ok (.and (.or (.leaf ⟨"a", false⟩) (.leaf ⟨"A", true⟩)) (.leaf ⟨"c", false⟩)) := rfl
  have read' : Condition.parse "\"c\" AND \"a\"" =
      .ok (.and (.leaf ⟨"c", false⟩) (.leaf ⟨"a", false⟩)) := rfl
  have reads : ∀ text ∈ ["(\"a\" OR \"A\"i) AND \"c\"", "", "\"c\" AND \"a\""],
      ∃ condition, ReadsAs text condition := by
    simp only [List.forall_mem_cons]
    exact ⟨⟨some _, by decide, read⟩, ⟨none, rfl⟩, ⟨some _, by decide, read'⟩, by simp⟩
  rcases exists_compile .ascii reads with ⟨matcher, compiled⟩
  refine ⟨matcher, compiled, ?_⟩
  rw [(stats_eq_counts compiled).2]
  decide +kernel

end Matcher

end LiteralLogic
