import LiteralLogic.Proofs.Matcher.Contents

/-!
# What a search comes across

The keys that a scan finds stand for the literals of the texts that are true of the input,
one for each; and the nodes that a walk reaches stand for the beginnings of paths that are
true of it.  So both numbers are counts over literals and paths, in which neither the
numbers of the literals nor the order of the conditions appear.
-/

namespace LiteralLogic

/-- A scan finds as many keys as there are distinct literals that are true of the input. -/
theorem Prefilter.size_scan {folding : Folding} {registry : Registry} {listed : List Literal}
    (consistent : registry.Consistent)
    (members : ∀ literal, literal ∈ registry.literals ↔ literal ∈ listed) (input : String) :
    ((ofRegistry folding registry).scan input).size =
      (listed.toFinset.filter fun literal =>
        (Haystack.ofText folding input).contains literal = true).card := by
  have found : ((ofRegistry folding registry).scan input).toList.toFinset =
      (listed.toFinset.filter fun literal =>
        (Haystack.ofText folding input).contains literal = true).image registry.keyOf := by
    ext key
    rw [List.mem_toFinset, Std.HashSet.mem_toList, mem_scan]
    simp only [Finset.mem_image, Finset.mem_filter, List.mem_toFinset, ← members]
    constructor
    · rintro ⟨literal, place, flag, contained⟩
      exact ⟨literal, ⟨Array.mem_of_getElem? place, contained⟩,
        (consistent.eq_keyOf place flag).symm⟩
    · rintro ⟨literal, ⟨known, contained⟩, rfl⟩
      exact ⟨literal, consistent.getElem?_keyOf known, rfl, contained⟩
  have distinct : ((ofRegistry folding registry).scan input).toList.Nodup :=
    Std.HashSet.distinct_toList.imp fun ne => by simpa using ne
  rw [← Std.HashSet.length_toList, ← List.toFinset_card_of_nodup distinct, found]
  apply Finset.card_image_of_injOn
  apply consistent.injOn_keyOf.mono
  intro literal mem
  exact (members literal).mpr (List.mem_toFinset.mp (Finset.mem_filter.mp mem).1)

namespace Compilation

/-- A walk reaches as many nodes as there are distinct beginnings of paths that are true of the
input, and the root. -/
theorem Gathers.nodesVisited {texts : List String} {compilation : Compilation}
    (h : compilation.Gathers texts) {inserts : List (List SignedKey × Nat)}
    (rows : inserts.map Prod.fst =
      (pathsOf texts).map (List.map compilation.registry.signedKeyOf))
    (folding : Folding) (input : String) :
    ((DecisionTree.ofInserts inserts).walk
        ((Prefilter.ofRegistry folding compilation.registry).scan input)).nodesVisited =
      1 + ((Trie.beginnings (pathsOf texts)).filter fun path =>
        Term.holds (Haystack.ofText folding input).contains path = true).card := by
  have holds : ∀ path ∈ Trie.beginnings (pathsOf texts),
      Fulfilled ((Prefilter.ofRegistry folding compilation.registry).scan input)
          (path.map compilation.registry.signedKeyOf) ↔
        Term.holds (Haystack.ofText folding input).contains path = true := by
    intro path mem
    rcases Trie.mem_beginnings.mp mem with ⟨-, whole, listed, beginning⟩
    have known : ∀ atom ∈ path, atom.literal ∈ compilation.registry.literals :=
      fun atom inPath => h.literal_mem listed (beginning.subset inPath)
    exact Matcher.fulfilled_iff (h.consistent.forall₂_names_iff.mpr ⟨known, rfl⟩) input
  -- Rows of keys are counted, so different beginnings must have different rows.
  have inj := h.injOn_beginnings.mono (Finset.coe_subset.mpr (Finset.filter_subset
    (fun path => Term.holds (Haystack.ofText folding input).contains path = true) _))
  rw [DecisionTree.nodesVisited_walk, rows, Trie.beginnings_map, Finset.filter_image,
    Finset.filter_congr holds, Finset.card_image_of_injOn inj]

end Compilation

/-! ## The order of the conditions -/

section

variable {texts reordered : List String} (perm : reordered.Perm texts)

include perm

theorem literalsOf_perm : (literalsOf reordered).Perm (literalsOf texts) :=
  (perm.filterMap _).flatMap_right _

theorem pathsOf_perm : (pathsOf reordered).Perm (pathsOf texts) :=
  (perm.filterMap _).flatMap_right _

end

namespace Matcher

/-- Conditions in another order compile as well. -/
theorem exists_compile_of_perm {folding : Folding} {texts reordered : List String}
    {matcher : Matcher} (compiled : compile folding texts = .ok matcher)
    (perm : reordered.Perm texts) : ∃ other, compile folding reordered = .ok other := by
  rcases exists_compilation compiled with ⟨compilation, compiles, -⟩
  apply exists_compile
  intro text mem
  rcases exists_mem_of_forall₂ compiles.reads (perm.mem_iff.mp mem) with ⟨condition, -, reads⟩
  exact ⟨condition, reads⟩

theorem run_counts {folding : Folding} {texts : List String} {matcher : Matcher}
    (compiled : compile folding texts = .ok matcher) (input : String) :
    (matcher.run input).literalsPresent = ((literalsOf texts).toFinset.filter fun literal =>
        (Haystack.ofText folding input).contains literal = true).card ∧
      (matcher.run input).nodesVisited =
        1 + ((Trie.beginnings (pathsOf texts)).filter fun path =>
          Term.holds (Haystack.ofText folding input).contains path = true).card := by
  rcases exists_gathers compiled with ⟨compilation, inserts, compiles, gathers, tree, rows, rfl⟩
  constructor
  · exact Prefilter.size_scan compiles.consistent gathers.mem_literals_iff input
  · rw [← gathers.nodesVisited rows folding input, ← tree]
    rfl

/-- Matching an input reports how many distinct literals of the conditions are true of it, and
one more than how many distinct beginnings of their AND-paths are.  Both numbers stay the same
when the conditions come in another order, in which they also compile. -/
theorem run_eq_counts {folding : Folding} {texts : List String} {matcher : Matcher}
    (compiled : compile folding texts = .ok matcher) (input : String) :
    (matcher.run input).literalsPresent = ((literalsOf texts).toFinset.filter fun literal =>
        (Haystack.ofText folding input).contains literal = true).card ∧
      (matcher.run input).nodesVisited =
        1 + ((Trie.beginnings (pathsOf texts)).filter fun path =>
          Term.holds (Haystack.ofText folding input).contains path = true).card ∧
      ∀ reordered : List String, reordered.Perm texts →
        ∃ other, compile folding reordered = .ok other ∧
          (other.run input).literalsPresent = (matcher.run input).literalsPresent ∧
          (other.run input).nodesVisited = (matcher.run input).nodesVisited := by
  rcases run_counts compiled input with ⟨literals, nodes⟩
  refine ⟨literals, nodes, ?_⟩
  intro reordered perm
  rcases exists_compile_of_perm compiled perm with ⟨other, compiled'⟩
  rcases run_counts compiled' input with ⟨literals', nodes'⟩
  have sameLiterals : (literalsOf reordered).toFinset = (literalsOf texts).toFinset :=
    List.toFinset_eq_of_perm _ _ (literalsOf_perm perm)
  have samePaths : Trie.beginnings (pathsOf reordered) = Trie.beginnings (pathsOf texts) :=
    Trie.beginnings_congr fun _ => (pathsOf_perm perm).mem_iff
  refine ⟨other, compiled', ?_, ?_⟩
  · rw [literals', literals, sameLiterals]
  · rw [nodes', nodes, samePaths]

/-- Two paths that begin alike, a literal that is true in small letters only, and the same
conditions in another order. -/
theorem run_of_shared_beginning : ∃ matcher other,
    compile .ascii ["\"FOO\"i OR (\"foo\" AND \"baz\")", "\"baz\" AND NOT \"bar\""] =
        .ok matcher ∧
      compile .ascii ["\"baz\" AND NOT \"bar\"", "\"FOO\"i OR (\"foo\" AND \"baz\")"] =
        .ok other ∧
      (matcher.run "Foo baz").literalsPresent = 2 ∧ (matcher.run "Foo baz").nodesVisited = 4 ∧
      (other.run "Foo baz").literalsPresent = 2 ∧ (other.run "Foo baz").nodesVisited = 4 := by
  have read : Condition.parse "\"FOO\"i OR (\"foo\" AND \"baz\")" =
      .ok (.or (.leaf ⟨"FOO", true⟩) (.and (.leaf ⟨"foo", false⟩) (.leaf ⟨"baz", false⟩))) := rfl
  have read' : Condition.parse "\"baz\" AND NOT \"bar\"" =
      .ok (.and (.leaf ⟨"baz", false⟩) (.not (.leaf ⟨"bar", false⟩))) := rfl
  have reads : ∀ text ∈ ["\"FOO\"i OR (\"foo\" AND \"baz\")", "\"baz\" AND NOT \"bar\""],
      ∃ condition, ReadsAs text condition := by
    simp only [List.forall_mem_cons]
    exact ⟨⟨some _, by decide, read⟩, ⟨some _, by decide, read'⟩, by simp⟩
  rcases exists_compile .ascii reads with ⟨matcher, compiled⟩
  rcases run_eq_counts compiled "Foo baz" with ⟨literals, nodes, inOtherOrder⟩
  rcases inOtherOrder _ (.swap _ _ _) with ⟨other, compiled', sameLiterals, sameNodes⟩
  refine ⟨matcher, other, compiled, compiled', ?_, ?_, ?_, ?_⟩
  · rw [literals]
    decide +kernel
  · rw [nodes]
    decide +kernel
  · rw [sameLiterals, literals]
    decide +kernel
  · rw [sameNodes, nodes]
    decide +kernel

end Matcher

end LiteralLogic
