import LiteralLogic.Proofs.Matcher
import LiteralLogic.Proofs.NormalForm.Terms
import LiteralLogic.Proofs.Registry.FirstSight
import LiteralLogic.Proofs.Registry.Keys
import Mathlib.Algebra.GroupWithZero.Nat

/-!
# What stands in a matcher

`conditionsOf`, `literalsOf` and `pathsOf` list what the texts of a set of conditions
contain.  The registry of a matcher numbers these literals and no others: the AND-paths
of a normal form have the literals of the condition, so threading them into the tree takes
no further number (`Compilation.threadPaths_of_mem`).  The rows of keys in the tree are
therefore the paths, read through the keys of one registry.

`Compilation.Gathers` is what compiling keeps true of the registry and of its counts.
-/

namespace LiteralLogic

/-- The conditions that texts are read as, without the empty ones. -/
def conditionsOf (texts : List String) : List Condition :=
  texts.filterMap Condition.ofText?

/-- The literals of the conditions as they were read, as often as they occur. -/
def literalsOf (texts : List String) : List Literal :=
  (conditionsOf texts).flatMap Condition.literals

/-- The canonical AND-paths of the normal forms of the conditions. -/
def pathsOf (texts : List String) : List Term :=
  (conditionsOf texts).flatMap Condition.normalPaths

theorem conditionsOf_append_empty (texts : List String) :
    conditionsOf (texts ++ [""]) = conditionsOf texts := by
  rw [conditionsOf, List.filterMap_append]
  exact List.append_nil _

theorem conditionsOf_concat (texts : List String) {text : String} {condition : Condition}
    (reads : ReadsAs text (some condition)) :
    conditionsOf (texts ++ [text]) = conditionsOf texts ++ [condition] := by
  rw [conditionsOf, List.filterMap_append]
  exact congrArg (conditionsOf texts ++ ·) (List.filterMap_cons_some reads.ofText?_eq)

/-- The paths of a condition have its literals only. -/
theorem Condition.literal_mem_of_normalPaths {condition : Condition} {path : Term}
    (mem : path ∈ condition.normalPaths) {atom : Atom} (inPath : atom ∈ path) :
    atom.literal ∈ condition.literals := by
  rw [← condition.map_literal_atoms true]
  exact List.mem_map_of_mem ((condition.mem_normalPaths_iff atom).mp ⟨path, mem, inPath⟩)

/-- The literals of a condition that a text is read as are among those of the texts. -/
theorem literals_subset_literalsOf {texts : List String} {index : Nat} {condition : Condition}
    (known : (texts.map Condition.ofText?)[index]? = some (some condition)) :
    condition.literals ⊆ literalsOf texts := by
  intro literal mem
  have listed : condition ∈ conditionsOf texts := by
    rw [conditionsOf, List.mem_filterMap]
    exact List.mem_map.mp (List.mem_of_getElem? known)
  exact List.mem_flatMap.mpr ⟨condition, listed, mem⟩

theorem literal_mem_of_pathsOf {texts : List String} {path : Term} (mem : path ∈ pathsOf texts)
    {atom : Atom} (inPath : atom ∈ path) : atom.literal ∈ literalsOf texts := by
  rcases List.mem_flatMap.mp mem with ⟨condition, listed, inCondition⟩
  exact List.mem_flatMap.mpr
    ⟨condition, listed, Condition.literal_mem_of_normalPaths inCondition inPath⟩

/-! ## The registry and the counts -/

namespace Compilation

/-- Paths whose literals are known take no further number. -/
theorem threadPaths_of_mem (index : Nat) {registry : Registry}
    (consistent : registry.Consistent) (tree : DecisionTree) {paths : List Term}
    (known : ∀ path ∈ paths, ∀ atom ∈ path, atom.literal ∈ registry.literals) :
    (threadPaths index registry tree paths).1 = registry := by
  induction paths generalizing tree with
  | nil => rfl
  | cons path paths ih =>
    rcases List.forall_mem_cons.mp known with ⟨ofFirst, ofRest⟩
    show (threadPaths index (registry.signedKeys path).1 _ paths).1 = registry
    rw [consistent.signedKeys_of_mem ofFirst]
    exact ih _ ofRest

/-- What compiling texts has counted, and which literals it has numbered. -/
structure Gathers (texts : List String) (compilation : Compilation) : Prop where
  registry_eq : compilation.registry = Registry.empty.internAll (literalsOf texts)
  empty_eq : compilation.empty = texts.count ""
  andPaths_eq : compilation.andPaths =
    ((conditionsOf texts).map (Condition.termCount true)).sum

theorem gathers_start : start.Gathers [] :=
  ⟨rfl, rfl, rfl⟩

theorem Gathers.addEmpty {texts : List String} {compilation : Compilation}
    (h : compilation.Gathers texts) : compilation.addEmpty.Gathers (texts ++ [""]) where
  registry_eq := by
    rw [literalsOf, conditionsOf_append_empty]
    exact h.registry_eq
  empty_eq := by
    rw [List.count_append, ← h.empty_eq]
    rfl
  andPaths_eq := by
    rw [conditionsOf_append_empty]
    exact h.andPaths_eq

theorem Gathers.addCondition {texts : List String} {compilation : Compilation}
    (h : compilation.Gathers texts) {text : String} {condition : Condition}
    (reads : ReadsAs text (some condition)) :
    (compilation.addCondition condition condition.normalPaths).Gathers (texts ++ [text]) := by
  rcases compilation with ⟨conditions, registry, tree, negatives, empty, andPaths⟩
  rcases h with ⟨rfl, rfl, rfl⟩
  have listed : literalsOf (texts ++ [text]) = literalsOf texts ++ condition.literals := by
    rw [literalsOf, conditionsOf_concat texts reads, List.flatMap_append, List.flatMap_singleton]
    rfl
  constructor
  · -- The literals of the condition are numbered first, so its paths bring nothing new.
    have known : ∀ path ∈ condition.normalPaths, ∀ atom ∈ path, atom.literal ∈
        (Registry.empty.internAll (literalsOf texts ++ condition.literals)).literals := by
      intro path mem atom inPath
      rw [Registry.mem_internAll_empty]
      exact List.mem_append_right _ (Condition.literal_mem_of_normalPaths mem inPath)
    rcases Registry.consistent_empty.internAll (literalsOf texts ++ condition.literals)
      with ⟨consistent, -⟩
    have threaded := threadPaths_of_mem conditions.size consistent tree known
    rw [Registry.internAll_append] at threaded
    rw [listed, Registry.internAll_append]
    exact threaded
  · have other : [text].count "" = 0 :=
      List.count_eq_zero.mpr (mt List.mem_singleton.mp (Ne.symm reads.1))
    rw [List.count_append, other]
    rfl
  · rw [conditionsOf_concat texts reads, List.map_append, List.sum_append]
    show _ + condition.normalPaths.length = _ + [condition.termCount true].sum
    rw [condition.normalPaths_eq, List.length_map, condition.length_terms, List.sum_singleton]

theorem Gathers.consistent {texts : List String} {compilation : Compilation}
    (h : compilation.Gathers texts) : compilation.registry.Consistent := by
  rw [h.registry_eq]
  exact (Registry.consistent_empty.internAll _).1

theorem Gathers.mem_literals_iff {texts : List String} {compilation : Compilation}
    (h : compilation.Gathers texts) (literal : Literal) :
    literal ∈ compilation.registry.literals ↔ literal ∈ literalsOf texts := by
  rw [h.registry_eq, Registry.mem_internAll_empty]

/-- The literals of all paths are known. -/
theorem Gathers.literal_mem {texts : List String} {compilation : Compilation}
    (h : compilation.Gathers texts) {path : Term} (mem : path ∈ pathsOf texts) {atom : Atom}
    (inPath : atom ∈ path) : atom.literal ∈ compilation.registry.literals :=
  (h.mem_literals_iff _).mpr (literal_mem_of_pathsOf mem inPath)

/-- Different beginnings of paths have different rows of keys. -/
theorem Gathers.injOn_beginnings {texts : List String} {compilation : Compilation}
    (h : compilation.Gathers texts) :
    Set.InjOn (List.map compilation.registry.signedKeyOf)
      (Trie.beginnings (pathsOf texts) : Set Term) :=
  Trie.injOn_beginnings h.consistent.injOn_signedKeyOf fun _ mem _ inPath =>
    h.literal_mem mem inPath

end Compilation

/-! ## The rows of keys -/

theorem map_fst_threadsOf (conditions : List (Option Condition)) :
    (threadsOf conditions).map Prod.fst =
      (conditions.filterMap id).flatMap Condition.normalPaths := by
  induction conditions using List.reverseRecOn with
  | nil => rfl
  | append_singleton conditions condition ih =>
    rw [threadsOf_concat, List.map_append, ih, List.filterMap_append, List.flatMap_append]
    cases condition <;> simp [Function.comp_def]

/-- The rows that name terms are the terms with their atoms' keys. -/
theorem Registry.Threads.map_fst {registry : Registry} (consistent : registry.Consistent)
    {threads : List (Term × Nat)} {inserts : List (List SignedKey × Nat)}
    (h : registry.Threads threads inserts) :
    inserts.map Prod.fst = (threads.map Prod.fst).map (List.map registry.signedKeyOf) := by
  have rows := h.imp fun _ _ thread => (consistent.forall₂_names_iff.mp thread.2).2.symm
  have mapped : (threads.map fun thread => thread.1.map registry.signedKeyOf) =
      inserts.map Prod.fst := by
    rw [← List.forall₂_eq_eq_eq, List.forall₂_map_left_iff, List.forall₂_map_right_iff]
    exact rows
  rw [← mapped, List.map_map]
  rfl

namespace Matcher

/-- A matcher numbers the literals of its texts, and its tree holds their paths. -/
theorem exists_gathers {folding : Folding} {texts : List String} {matcher : Matcher}
    (h : compile folding texts = .ok matcher) :
    ∃ (compilation : Compilation) (inserts : List (List SignedKey × Nat)),
      compilation.Compiles texts ∧ compilation.Gathers texts ∧
      compilation.tree = DecisionTree.ofInserts inserts ∧
      inserts.map Prod.fst = (pathsOf texts).map (List.map compilation.registry.signedKeyOf) ∧
      matcher = compilation.finish folding := by
  rcases compile_induction (motive := fun texts compilation => compilation.Gathers texts)
    Compilation.gathers_start (fun _ _ before => before.addEmpty)
    (fun _ _ _ _ read before => before.addCondition read) h
    with ⟨compilation, compiles, gathers, finished⟩
  rcases compiles.tree with ⟨inserts, tree, threads⟩
  have rows := threads.map_fst compiles.consistent
  rw [map_fst_threadsOf, compiles.toList_conditions, List.filterMap_map] at rows
  exact ⟨compilation, inserts, compiles, gathers, tree, rows, finished⟩

end Matcher

end LiteralLogic
