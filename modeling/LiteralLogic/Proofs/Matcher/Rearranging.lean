import LiteralLogic.Proofs.Matcher.Contents
import LiteralLogic.Proofs.NormalForm.Rearranging

/-!
# Sizes that rearranging keeps

The decision tree of a matcher has a node for each distinct beginning of an AND-path, and
rearranging a condition permutes its AND-paths.  So a condition can be replaced by a
rearrangement anywhere in a list of conditions, and the matcher of the list has as many
AND-paths and as many tree nodes as before.
-/

namespace LiteralLogic

theorem conditionsOf_insert (before after : List String) {text : String} {condition : Condition}
    (read : Condition.parse text = .ok condition) :
    conditionsOf (before ++ text :: after) =
      conditionsOf before ++ condition :: conditionsOf after := by
  rw [conditionsOf, List.filterMap_append,
    List.filterMap_cons_some (ReadsAs.of_parse read).ofText?_eq]
  rfl

theorem length_pathsOf (texts : List String) :
    (pathsOf texts).length = ((conditionsOf texts).map (Condition.termCount true)).sum := by
  have counted : ∀ condition : Condition,
      condition.normalPaths.length = condition.termCount true := by
    intro condition
    rw [condition.normalPaths_eq, List.length_map, condition.length_terms]
  rw [pathsOf, List.length_flatMap, funext counted]

/-- In a list of texts, a condition that is rearranged gives the same paths in another order. -/
theorem pathsOf_rearranged {a b : Condition} (h : Rearranged a b) (before after : List String)
    {text text' : String} (read : Condition.parse text = .ok a)
    (read' : Condition.parse text' = .ok b) :
    (pathsOf (before ++ text :: after)).Perm (pathsOf (before ++ text' :: after)) := by
  rw [pathsOf, pathsOf, conditionsOf_insert before after read,
    conditionsOf_insert before after read', List.flatMap_append, List.flatMap_append,
    List.flatMap_cons, List.flatMap_cons]
  exact (h.normalPaths_perm.append_right _).append_left _

namespace Matcher

/-- The sizes of a matcher that its AND-paths decide. -/
theorem andPaths_and_treeNodes_eq {folding : Folding} {texts : List String} {matcher : Matcher}
    (compiled : compile folding texts = .ok matcher) :
    matcher.stats.andPaths = (pathsOf texts).length ∧
      matcher.stats.treeNodes = 1 + (Trie.beginnings (pathsOf texts)).card := by
  rcases exists_gathers compiled with ⟨compilation, inserts, -, gathers, tree, rows, rfl⟩
  constructor
  · rw [length_pathsOf]
    exact gathers.andPaths_eq
  · show compilation.tree.nodeCount = _
    rw [tree, DecisionTree.nodeCount_ofInserts, rows, Trie.beginnings_map,
      Finset.card_image_of_injOn gathers.injOn_beginnings]

/-- Conditions that differ in the order of the operands of AND and OR and in the grouping of
chains have the same AND-paths in some order, each in the same canonical order.  Compiled among
the same other conditions, they give matchers with as many AND-paths and tree nodes. -/
theorem andPaths_perm_and_sizes_of_rearranged {a b : Condition} (h : Rearranged a b) :
    (∃ paths paths', a.normalize.andPaths = .ok paths ∧ b.normalize.andPaths = .ok paths' ∧
        paths.Perm paths') ∧
      ∀ (folding : Folding) (before after : List String) (text text' : String),
        (∀ other ∈ before ++ after, ∃ entry, ReadsAs other entry) →
        Condition.parse text = .ok a → Condition.parse text' = .ok b →
        ∃ matcher matcher', compile folding (before ++ text :: after) = .ok matcher ∧
          compile folding (before ++ text' :: after) = .ok matcher' ∧
          matcher.stats.andPaths = matcher'.stats.andPaths ∧
          matcher.stats.treeNodes = matcher'.stats.treeNodes := by
  refine ⟨⟨_, _, a.andPaths_normalize, b.andPaths_normalize, h.normalPaths_perm⟩, ?_⟩
  intro folding before after text text' others read read'
  have compiles : ∀ {text condition}, Condition.parse text = .ok condition →
      ∃ matcher, compile folding (before ++ text :: after) = .ok matcher := by
    intro text condition read
    apply exists_compile
    intro other mem
    rcases List.mem_append.mp mem with early | late
    · exact others other (List.mem_append_left _ early)
    · rcases List.mem_cons.mp late with rfl | late
      · exact ⟨_, ReadsAs.of_parse read⟩
      · exact others other (List.mem_append_right _ late)
  rcases compiles read with ⟨matcher, compiled⟩
  rcases compiles read' with ⟨matcher', compiled'⟩
  have perm := pathsOf_rearranged h before after read read'
  rcases andPaths_and_treeNodes_eq compiled with ⟨paths, nodes⟩
  rcases andPaths_and_treeNodes_eq compiled' with ⟨paths', nodes'⟩
  have same : Trie.beginnings (pathsOf (before ++ text :: after)) =
      Trie.beginnings (pathsOf (before ++ text' :: after)) :=
    Trie.beginnings_congr fun _ => perm.mem_iff
  refine ⟨matcher, matcher', compiled, compiled', ?_, ?_⟩
  · rw [paths, paths', perm.length_eq]
  · rw [nodes, nodes', same]

/-- Operands swapped below a negation, where a product becomes a list of terms, and a chain
grouped to the right: the sizes beside another condition. -/
theorem sizes_of_swapped_and_regrouped : ∃ matcher matcher',
    compile .unicode
        ["NOT ((\"a\" AND \"b\") OR \"c\"i) AND \"d\" AND \"e\"", "\"d\" AND NOT \"c\"i"] =
      .ok matcher ∧
    compile .unicode
        ["NOT (\"c\"i OR (\"b\" AND \"a\")) AND (\"d\" AND \"e\")", "\"d\" AND NOT \"c\"i"] =
      .ok matcher' ∧
    matcher.stats.andPaths = matcher'.stats.andPaths ∧
    matcher.stats.treeNodes = matcher'.stats.treeNodes := by
  have swapped : Rearranged
      (.not (.or (.and (.leaf ⟨"a", false⟩) (.leaf ⟨"b", false⟩)) (.leaf ⟨"c", true⟩)))
      (.not (.or (.leaf ⟨"c", true⟩) (.and (.leaf ⟨"b", false⟩) (.leaf ⟨"a", false⟩)))) :=
    .not (.trans (.swapOr _ _) (.or (.refl _) (.swapAnd _ _)))
  have regrouped := Rearranged.trans
    (.groupAnd _ (.leaf ⟨"d", false⟩) (.leaf ⟨"e", false⟩)) (.and swapped (.refl _))
  have read : Condition.parse "\"d\" AND NOT \"c\"i" =
      .ok (.and (.leaf ⟨"d", false⟩) (.not (.leaf ⟨"c", true⟩))) := rfl
  have others : ∀ other ∈ ["\"d\" AND NOT \"c\"i"], ∃ entry, ReadsAs other entry :=
    List.forall_mem_singleton.mpr ⟨_, ReadsAs.of_parse read⟩
  exact (andPaths_perm_and_sizes_of_rearranged regrouped).2 .unicode [] _ _ _ others rfl rfl

end Matcher

end LiteralLogic
