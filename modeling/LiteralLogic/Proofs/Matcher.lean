import LiteralLogic.Matcher
import LiteralLogic.Proofs.DecisionTree
import LiteralLogic.Proofs.NormalForm
import LiteralLogic.Proofs.Prefilter

/-!
# What a matcher finds

`Compilation.Compiles` is what compiling keeps true with every further text: which
conditions were read, and that the tree holds the AND-paths of their normal forms, with
the literals numbered by the registry.  From it and from what the prefilter finds, a
condition is among those that an input satisfies exactly if the condition as it was
read, not its normal form, is true of the input.
-/

namespace LiteralLogic

/-- The text was read as this condition, or is empty and there is none. -/
def ReadsAs (text : String) : Option Condition → Prop
  | none => text = ""
  | some condition => text ≠ "" ∧ Condition.parse text = .ok condition

/-- A text that is read as a condition is not empty. -/
theorem ReadsAs.of_parse {text : String} {condition : Condition}
    (read : Condition.parse text = .ok condition) : ReadsAs text (some condition) := by
  refine ⟨?_, read⟩
  rintro rfl
  cases read

/-- The condition that a text is read as; none for an empty text and for one that is no
condition. -/
def Condition.ofText? (text : String) : Option Condition :=
  if text = "" then none else (Condition.parse text).toOption

theorem Condition.ofText?_eq_some_iff {text : String} {condition : Condition} :
    Condition.ofText? text = some condition ↔
      text ≠ "" ∧ Condition.parse text = .ok condition := by
  unfold Condition.ofText?
  by_cases empty : text = ""
  · simp [empty]
  · cases Condition.parse text <;> simp [empty, Except.toOption]

theorem ReadsAs.ofText?_eq {text : String} {entry : Option Condition} (h : ReadsAs text entry) :
    Condition.ofText? text = entry := by
  cases entry with
  | none => exact if_pos h
  | some condition => exact Condition.ofText?_eq_some_iff.mpr h

theorem Condition.getElem?_map_ofText? {texts : List String} {index : Nat} {text : String}
    {condition : Condition} (read : Condition.parse text = .ok condition)
    (place : texts[index]? = some text) :
    (texts.map Condition.ofText?)[index]? = some (some condition) := by
  rw [List.getElem?_map, place, Option.map_some, (ReadsAs.of_parse read).ofText?_eq]

/-- The AND-paths of a list of conditions, each with the number of its condition. -/
def threadsOf (conditions : List (Option Condition)) : List (Term × Nat) :=
  conditions.zipIdx.flatMap fun (condition, index) =>
    (condition.elim [] Condition.normalPaths).map fun path => (path, index)

theorem threadsOf_concat (conditions : List (Option Condition)) (condition : Option Condition) :
    threadsOf (conditions ++ [condition]) = threadsOf conditions ++
      (condition.elim [] Condition.normalPaths).map fun path => (path, conditions.length) := by
  simp [threadsOf, List.zipIdx_append]

theorem mem_threadsOf {conditions : List (Option Condition)} {path : Term} {index : Nat} :
    (path, index) ∈ threadsOf conditions ↔
      ∃ condition, conditions[index]? = some (some condition) ∧ path ∈ condition.normalPaths := by
  simp only [threadsOf, List.mem_flatMap, Prod.exists, List.mem_zipIdx_iff_getElem?, List.mem_map]
  constructor
  · intro h
    obtain ⟨condition, place, known, path', mem, same⟩ := h
    cases same
    cases condition with
    | none => cases mem
    | some condition => exact ⟨condition, known, mem⟩
  · intro h
    obtain ⟨condition, known, mem⟩ := h
    exact ⟨some condition, index, known, path, mem, rfl⟩

/-- The rows of keys name the terms, and belong to the same conditions. -/
def Registry.Threads (registry : Registry) (threads : List (Term × Nat))
    (inserts : List (List SignedKey × Nat)) : Prop :=
  List.Forall₂ (fun thread insert =>
    thread.2 = insert.2 ∧ List.Forall₂ registry.Names thread.1 insert.1) threads inserts

theorem exists_mem_of_forall₂ {α β : Type} {relation : α → β → Prop} {as : List α} {bs : List β}
    (h : List.Forall₂ relation as bs) {a : α} (mem : a ∈ as) : ∃ b ∈ bs, relation a b := by
  induction h with
  | nil => cases mem
  | @cons first second as bs related _ ih =>
    rcases List.mem_cons.mp mem with rfl | later
    · exact ⟨second, List.mem_cons_self, related⟩
    · rcases ih later with ⟨b, listed, related⟩
      exact ⟨b, List.mem_cons_of_mem _ listed, related⟩

theorem Registry.Threads.mono {registry larger : Registry} {threads : List (Term × Nat)}
    {inserts : List (List SignedKey × Nat)} (h : registry.Threads threads inserts)
    (kept : registry.Extends larger) : larger.Threads threads inserts :=
  h.imp fun _ _ thread => ⟨thread.1, thread.2.imp fun _ _ names => names.mono kept⟩

namespace Compilation

/-- The paths of a condition are put into the tree with their literals numbered. -/
theorem threadPaths_spec (index : Nat) {registry : Registry} (consistent : registry.Consistent)
    (inserts : List (List SignedKey × Nat)) (paths : List Term) :
    let threaded := threadPaths index registry (DecisionTree.ofInserts inserts) paths
    threaded.1.Consistent ∧ registry.Extends threaded.1 ∧
      ∃ further, threaded.2 = DecisionTree.ofInserts (inserts ++ further) ∧
        threaded.1.Threads (paths.map fun path => (path, index)) further := by
  induction paths generalizing registry inserts with
  | nil => exact ⟨consistent, .refl registry, [], by rw [List.append_nil]; rfl, .nil⟩
  | cons path paths ih =>
    obtain ⟨consistent', kept, names⟩ := consistent.signedKeys path
    have inserted : (DecisionTree.ofInserts inserts).insert (registry.signedKeys path).2 index =
        DecisionTree.ofInserts (inserts ++ [((registry.signedKeys path).2, index)]) := by
      rw [DecisionTree.ofInserts, DecisionTree.ofInserts, List.foldl_concat]
    obtain ⟨consistent'', kept', further, tree, threads⟩ :=
      ih consistent' (inserts ++ [((registry.signedKeys path).2, index)])
    rw [List.append_assoc] at tree
    rw [← inserted] at tree consistent'' kept' threads
    refine ⟨consistent'', kept.trans kept', _, tree, .cons ⟨rfl, ?_⟩ threads⟩
    exact names.imp fun _ _ named => named.mono kept'

/-- What compiling texts has led to. -/
structure Compiles (texts : List String) (compilation : Compilation) : Prop where
  reads : List.Forall₂ ReadsAs texts compilation.conditions.toList
  consistent : compilation.registry.Consistent
  tree : ∃ inserts, compilation.tree = DecisionTree.ofInserts inserts ∧
    compilation.registry.Threads (threadsOf compilation.conditions.toList) inserts

theorem compiles_start : start.Compiles [] where
  reads := .nil
  consistent := Registry.consistent_empty
  tree := ⟨[], rfl, .nil⟩

theorem Compiles.addEmpty {texts : List String} {compilation : Compilation}
    (h : compilation.Compiles texts) : compilation.addEmpty.Compiles (texts ++ [""]) where
  reads := by
    rw [Compilation.addEmpty, Array.toList_push]
    exact List.rel_append h.reads (.cons rfl .nil)
  consistent := h.consistent
  tree := by
    obtain ⟨inserts, tree, threads⟩ := h.tree
    refine ⟨inserts, tree, ?_⟩
    rw [Compilation.addEmpty, Array.toList_push, threadsOf_concat]
    simpa using threads

theorem Compiles.addCondition {texts : List String} {compilation : Compilation}
    (h : compilation.Compiles texts) {text : String} {condition : Condition}
    (reads : ReadsAs text (some condition)) :
    (compilation.addCondition condition condition.normalPaths).Compiles (texts ++ [text]) := by
  obtain ⟨conditions, registry, tree, negatives, empty, andPaths⟩ := compilation
  obtain ⟨reads', consistent, inserts, rfl, threads⟩ := h
  obtain ⟨interned, kept⟩ := consistent.internAll condition.literals
  obtain ⟨consistent', kept', further, tree, threads'⟩ :=
    threadPaths_spec conditions.size interned inserts condition.normalPaths
  constructor
  · show List.Forall₂ ReadsAs _ (conditions.push (some condition)).toList
    rw [Array.toList_push]
    exact List.rel_append reads' (.cons reads .nil)
  · exact consistent'
  · refine ⟨inserts ++ further, tree, ?_⟩
    show Registry.Threads _ (threadsOf (conditions.push (some condition)).toList) _
    rw [Array.toList_push, threadsOf_concat, Array.length_toList]
    exact List.rel_append (threads.mono (kept.trans kept')) threads'

/-- The conditions are the texts as they are read. -/
theorem Compiles.toList_conditions {texts : List String} {compilation : Compilation}
    (h : compilation.Compiles texts) :
    compilation.conditions.toList = texts.map Condition.ofText? := by
  have places := h.reads.imp fun _ _ read => read.ofText?_eq
  rw [← List.forall₂_map_left_iff (R := Eq), List.forall₂_eq_eq_eq] at places
  exact places.symm

/-- The conditions are those that the texts were read as. -/
theorem Compiles.condition_iff {texts : List String} {compilation : Compilation}
    (h : compilation.Compiles texts) {index : Nat} {condition : Condition} :
    compilation.conditions.toList[index]? = some (some condition) ↔
      ∃ text, texts[index]? = some text ∧ text ≠ "" ∧ Condition.parse text = .ok condition := by
  rw [h.toList_conditions, List.getElem?_map, Option.map_eq_some_iff]
  simp only [Condition.ofText?_eq_some_iff]

/-- The conditions are those that the texts other than the empty ones were read as. -/
theorem Compiles.mem_filterMap_iff {texts : List String} {compilation : Compilation}
    (h : compilation.Compiles texts) {condition : Condition} :
    condition ∈ compilation.conditions.toList.filterMap id ↔
      ∃ text ∈ texts, text ≠ "" ∧ Condition.parse text = .ok condition := by
  rw [h.toList_conditions, List.filterMap_map, List.mem_filterMap]
  simp only [Function.id_comp, Condition.ofText?_eq_some_iff]

/-- There are no conditions exactly if all texts are empty. -/
theorem Compiles.filterMap_eq_nil_iff {texts : List String} {compilation : Compilation}
    (h : compilation.Compiles texts) :
    compilation.conditions.toList.filterMap id = [] ↔ ∀ text ∈ texts, text = "" := by
  rw [List.filterMap_eq_nil_iff]
  constructor
  · intro empty text mem
    rcases exists_mem_of_forall₂ h.reads mem with ⟨entry, known, read⟩
    have absent : entry = none := empty entry known
    subst absent
    exact read
  · intro empty entry known
    rcases exists_mem_of_forall₂ h.reads.flip known with ⟨text, mem, read⟩
    cases entry with
    | none => rfl
    | some condition => exact (read.1 (empty text mem)).elim

theorem add_of_reads (compilation : Compilation) {text : String} {condition : Condition}
    (reads : ReadsAs text (some condition)) :
    compilation.add text = .ok (compilation.addCondition condition condition.normalPaths) := by
  obtain ⟨nonempty, read⟩ := reads
  simp only [add, nonempty, if_false, read, Condition.andPaths_normalize]

/-- A text is empty, or it is read as a condition. -/
theorem add_cases {compilation next : Compilation} {text : String}
    (added : compilation.add text = .ok next) :
    (text = "" ∧ next = compilation.addEmpty) ∨
      ∃ condition, ReadsAs text (some condition) ∧
        next = compilation.addCondition condition condition.normalPaths := by
  by_cases empty : text = ""
  · subst empty
    cases added
    exact .inl ⟨rfl, rfl⟩
  · cases read : Condition.parse text with
    | error error =>
      rw [add, if_neg empty, read] at added
      cases added
    | ok condition =>
      rw [add_of_reads compilation ⟨empty, read⟩] at added
      cases added
      exact .inr ⟨condition, ⟨empty, read⟩, rfl⟩

/-- Compiling succeeds if every text is empty or is read as a condition. -/
theorem exists_addAll {texts : List String}
    (reads : ∀ text ∈ texts, ∃ condition, ReadsAs text condition) (compilation : Compilation) :
    ∃ next, compilation.addAll texts = .ok next := by
  induction texts generalizing compilation with
  | nil => exact ⟨compilation, rfl⟩
  | cons text texts ih =>
    obtain ⟨condition, read⟩ := reads text List.mem_cons_self
    have rest := ih fun text mem => reads text (List.mem_cons_of_mem _ mem)
    cases condition with
    | none =>
      have empty : text = "" := read
      subst empty
      exact rest compilation.addEmpty
    | some condition =>
      obtain ⟨next, added⟩ := rest (compilation.addCondition condition condition.normalPaths)
      refine ⟨next, ?_⟩
      simp only [addAll, add_of_reads compilation read]
      exact added

/-- What holds of the texts and the compilation at first and is kept by every empty text and
by every text that is read, holds when all texts have been compiled. -/
theorem addAll_induction {motive : List String → Compilation → Prop}
    (empty : ∀ texts compilation, motive texts compilation →
      motive (texts ++ [""]) compilation.addEmpty)
    (reads : ∀ texts compilation text condition, ReadsAs text (some condition) →
      motive texts compilation →
      motive (texts ++ [text]) (compilation.addCondition condition condition.normalPaths))
    {texts further : List String} {compilation next : Compilation}
    (h : motive texts compilation) (added : compilation.addAll further = .ok next) :
    motive (texts ++ further) next := by
  induction further generalizing texts compilation with
  | nil =>
    cases added
    rw [List.append_nil]
    exact h
  | cons text further ih =>
    rw [Compilation.addAll] at added
    split at added
    · cases added
    · rename_i middle first
      have step : motive (texts ++ [text]) middle := by
        rcases add_cases first with ⟨rfl, rfl⟩ | ⟨condition, read, rfl⟩
        · exact empty texts compilation h
        · exact reads texts compilation text condition read h
      have rest := ih step added
      rw [List.append_assoc] at rest
      exact rest

theorem Compiles.addAll {texts further : List String} {compilation next : Compilation}
    (h : compilation.Compiles texts) (added : compilation.addAll further = .ok next) :
    next.Compiles (texts ++ further) :=
  addAll_induction (motive := fun texts compilation => compilation.Compiles texts)
    (fun _ _ before => before.addEmpty) (fun _ _ _ _ read before => before.addCondition read)
    h added

end Compilation

namespace Matcher

/-- A matcher comes from a compilation of which everything holds that compiling keeps. -/
theorem compile_induction {motive : List String → Compilation → Prop}
    (start : motive [] .start)
    (empty : ∀ texts compilation, motive texts compilation →
      motive (texts ++ [""]) compilation.addEmpty)
    (reads : ∀ texts compilation text condition, ReadsAs text (some condition) →
      motive texts compilation →
      motive (texts ++ [text]) (compilation.addCondition condition condition.normalPaths))
    {folding : Folding} {texts : List String} {matcher : Matcher}
    (h : compile folding texts = .ok matcher) :
    ∃ compilation : Compilation, compilation.Compiles texts ∧ motive texts compilation ∧
      matcher = compilation.finish folding := by
  unfold compile at h
  split at h
  · rename_i compilation added
    cases h
    exact ⟨compilation, Compilation.compiles_start.addAll added,
      Compilation.addAll_induction empty reads start added, rfl⟩
  · cases h

theorem exists_compilation {folding : Folding} {texts : List String} {matcher : Matcher}
    (h : compile folding texts = .ok matcher) :
    ∃ compilation : Compilation, compilation.Compiles texts ∧
      matcher = compilation.finish folding := by
  rcases compile_induction (motive := fun _ _ => True) trivial (fun _ _ _ => trivial)
    (fun _ _ _ _ _ _ => trivial) h with ⟨compilation, compiles, -, finished⟩
  exact ⟨compilation, compiles, finished⟩

theorem exists_compile (folding : Folding) {texts : List String}
    (reads : ∀ text ∈ texts, ∃ condition, ReadsAs text condition) :
    ∃ matcher, compile folding texts = .ok matcher := by
  obtain ⟨compilation, added⟩ := Compilation.exists_addAll reads .start
  exact ⟨compilation.finish folding, by rw [compile, added]⟩

/-- A key is present exactly if the atom's literal is true of the input. -/
theorem mem_scan_iff_of_names {folding : Folding} {registry : Registry} {atom : Atom}
    {signed : SignedKey} (names : registry.Names atom signed) (input : String) :
    signed.key ∈ (Prefilter.ofRegistry folding registry).scan input ↔
      (Haystack.ofText folding input).contains atom.literal = true := by
  rw [Prefilter.mem_scan]
  constructor
  · intro h
    obtain ⟨literal, known, -, contained⟩ := h
    rw [names.literal] at known
    cases known
    exact contained
  · intro contained
    exact ⟨atom.literal, names.literal, names.case_eq, contained⟩

/-- A row of keys is fulfilled exactly if the term that it names is true of the input. -/
theorem fulfilled_iff {folding : Folding} {registry : Registry} {path : Term}
    {keys : List SignedKey} (names : List.Forall₂ registry.Names path keys) (input : String) :
    Fulfilled ((Prefilter.ofRegistry folding registry).scan input) keys ↔
      path.holds (Haystack.ofText folding input).contains = true := by
  induction names with
  | nil => simp [Fulfilled, Term.holds]
  | @cons atom signed path keys named _ ih =>
    have first : (signed.key ∈ (Prefilter.ofRegistry folding registry).scan input ↔
          signed.negated = false) ↔
        atom.holds (Haystack.ofText folding input).contains = true := by
      rw [mem_scan_iff_of_names named, named.sign_eq, Atom.holds]
      cases (Haystack.ofText folding input).contains atom.literal <;>
        cases atom.negated <;> simp
    rw [Fulfilled, List.forall_mem_cons, first, Term.holds, List.all_cons, Bool.and_eq_true]
    exact and_congr_right fun _ => ih

theorem condition?_finish {folding : Folding} {compilation : Compilation} {index : Nat}
    {condition : Condition} :
    (compilation.finish folding).condition? index = some condition ↔
      compilation.conditions.toList[index]? = some (some condition) := by
  rw [condition?, Option.join_eq_some_iff, Array.getElem?_toList]
  rfl

theorem mem_satisfied_finish {folding : Folding} {texts : List String}
    {compilation : Compilation} (h : compilation.Compiles texts) (input : String) (index : Nat) :
    index ∈ (compilation.finish folding).satisfied input ↔
      ∃ condition, (compilation.finish folding).condition? index = some condition ∧
        condition.holds (Haystack.ofText folding input).contains = true := by
  obtain ⟨inserts, tree, threads⟩ := h.tree
  have walk : (compilation.finish folding).satisfied input =
      ((DecisionTree.ofInserts inserts).walk
        ((Prefilter.ofRegistry folding compilation.registry).scan input)).conditions := by
    rw [← tree]
    rfl
  rw [walk, DecisionTree.mem_conditions_walk]
  simp only [condition?_finish, ← Condition.exists_normalPath_iff]
  constructor
  · intro h
    obtain ⟨keys, inserted, fulfilled⟩ := h
    obtain ⟨⟨path, _⟩, mem, rfl, names⟩ := exists_mem_of_forall₂ threads.flip inserted
    obtain ⟨condition, known, mem⟩ := mem_threadsOf.mp mem
    exact ⟨condition, known, path, mem, (fulfilled_iff names input).mp fulfilled⟩
  · intro h
    obtain ⟨condition, known, path, mem, holds⟩ := h
    have thread := mem_threadsOf.mpr ⟨condition, known, mem⟩
    obtain ⟨⟨keys, _⟩, inserted, rfl, names⟩ := exists_mem_of_forall₂ threads thread
    exact ⟨keys, inserted, (fulfilled_iff names input).mpr holds⟩

/-- The conditions that are found are those that the texts are read as and that are true of
the input. -/
theorem mem_satisfied_iff_ofText? {folding : Folding} {texts : List String} {matcher : Matcher}
    (compiled : compile folding texts = .ok matcher) (input : String) (index : Nat) :
    index ∈ matcher.satisfied input ↔
      ∃ condition, (texts.map Condition.ofText?)[index]? = some (some condition) ∧
        condition.holds (Haystack.ofText folding input).contains = true := by
  rcases exists_compilation compiled with ⟨compilation, compiles, rfl⟩
  rw [mem_satisfied_finish compiles]
  simp only [condition?_finish, compiles.toList_conditions]

theorem mem_satisfied_of_ofText? {folding : Folding} {texts : List String} {matcher : Matcher}
    (compiled : compile folding texts = .ok matcher) {index : Nat} {condition : Condition}
    (known : (texts.map Condition.ofText?)[index]? = some (some condition)) (input : String) :
    index ∈ matcher.satisfied input ↔
      condition.holds (Haystack.ofText folding input).contains = true := by
  rw [mem_satisfied_iff_ofText? compiled, known]
  simp only [Option.some.injEq, exists_eq_left']

theorem evaluate?_eq_some_iff {folding : Folding} {compilation : Compilation} {input : String}
    {index : Nat} :
    (compilation.finish folding).evaluate? index input = some true ↔
      ∃ condition, (compilation.finish folding).condition? index = some condition ∧
        condition.evaluate (Haystack.ofText folding input) = true := by
  rw [evaluate?, Option.map_eq_some_iff]
  rfl

/-- The conditions that a matcher finds are those of which direct evaluation says that the
input satisfies them, in ascending order; they are evaluated as they were read, and empty
texts are no conditions. -/
theorem mem_satisfied_iff_evaluate {folding : Folding} {texts : List String} {matcher : Matcher}
    (compiled : compile folding texts = .ok matcher) (input : String) :
    (matcher.satisfied input).Pairwise (· < ·) ∧
      (matcher.run input).indices = matcher.satisfied input ∧
      (∀ index, index ∈ matcher.satisfied input ↔ matcher.evaluate? index input = some true) ∧
      (∀ index, index ∈ matcher.satisfied input ↔
        ∃ text condition, texts[index]? = some text ∧ text ≠ "" ∧
          Condition.parse text = .ok condition ∧
          condition.evaluate (Haystack.ofText folding input) = true) := by
  obtain ⟨compilation, compiles, rfl⟩ := exists_compilation compiled
  refine ⟨DecisionTree.pairwise_conditions_walk _ _, rfl, ?_, ?_⟩
  · intro index
    rw [mem_satisfied_finish compiles, evaluate?_eq_some_iff]
    simp only [Condition.evaluate_eq]
  · intro index
    rw [mem_satisfied_finish compiles]
    simp only [condition?_finish, Condition.evaluate_eq, compiles.condition_iff]
    constructor
    · intro h
      obtain ⟨condition, ⟨text, place, nonempty, read⟩, holds⟩ := h
      exact ⟨text, condition, place, nonempty, read, holds⟩
    · intro h
      obtain ⟨text, condition, place, nonempty, read, holds⟩ := h
      exact ⟨condition, ⟨text, place, nonempty, read⟩, holds⟩

/-- A literal with case, a literal without, and an empty text. -/
theorem mem_satisfied_and_not : ∃ matcher,
    compile .ascii ["\"a\" AND NOT \"b\"i", ""] = .ok matcher ∧
      0 ∈ matcher.satisfied "xa" ∧ 0 ∉ matcher.satisfied "xaB" ∧ 1 ∉ matcher.satisfied "xa" := by
  have read : Condition.parse "\"a\" AND NOT \"b\"i" =
      .ok (.and (.leaf ⟨"a", false⟩) (.not (.leaf ⟨"b", true⟩))) := rfl
  have reads : ∀ text ∈ ["\"a\" AND NOT \"b\"i", ""], ∃ condition, ReadsAs text condition :=
    List.forall_mem_cons.mpr
      ⟨⟨some _, by decide, read⟩, List.forall_mem_singleton.mpr ⟨none, rfl⟩⟩
  obtain ⟨matcher, compiled⟩ := exists_compile .ascii reads
  have found := fun input => (mem_satisfied_iff_evaluate compiled input).2.2.2
  refine ⟨matcher, compiled, (found "xa" 0).mpr ⟨_, _, rfl, by decide, read, ?_⟩, ?_, ?_⟩
  · rw [Condition.evaluate_eq]
    decide
  · intro satisfied
    obtain ⟨text, condition, place, -, read', holds⟩ := (found "xaB" 0).mp satisfied
    cases place
    rw [read] at read'
    cases read'
    rw [Condition.evaluate_eq] at holds
    revert holds
    decide
  · intro satisfied
    obtain ⟨text, condition, place, nonempty, -, -⟩ := (found "xa" 1).mp satisfied
    cases place
    exact nonempty rfl

end Matcher

end LiteralLogic
