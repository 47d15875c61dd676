import LiteralLogic.Proofs.Matcher

/-!
# Sets of conditions that are refused

Compiling stops at the first text that is not empty and is no condition.  Every text
before it is empty or is read, and takes its place among the conditions
(`Compilation.addAll_append`, `Compiles.size_eq`); what stands behind it is not looked
at.  Nothing else is ever wrong with a set: the AND-paths are taken from normal forms,
and a normal form is never refused.
-/

namespace LiteralLogic

/-- The text is not empty and no condition, for this reason. -/
def RefusedAs (text : String) (error : SyntaxError) : Prop :=
  text ≠ "" ∧ Condition.parse text = .error error

/-- A text is read or refused. -/
theorem reads_or_refused (text : String) :
    (∃ condition, ReadsAs text condition) ∨ ∃ error, RefusedAs text error := by
  by_cases empty : text = ""
  · exact .inl ⟨none, empty⟩
  · cases parsed : Condition.parse text with
    | ok condition => exact .inl ⟨some condition, empty, parsed⟩
    | error error => exact .inr ⟨error, empty, parsed⟩

theorem RefusedAs.not_readsAs {text : String} {error : SyntaxError} (h : RefusedAs text error)
    (condition : Option Condition) : ¬ReadsAs text condition := by
  rcases h with ⟨nonempty, refused⟩
  intro read
  cases condition with
  | none => exact nonempty read
  | some condition =>
    rcases read with ⟨-, parsed⟩
    rw [refused] at parsed
    cases parsed

/-- Among texts that are not all read there is a first one that is refused. -/
theorem exists_first_refused (texts : List String) :
    (∀ text ∈ texts, ∃ condition, ReadsAs text condition) ∨
      ∃ before text after error, texts = before ++ text :: after ∧ RefusedAs text error ∧
        ∀ earlier ∈ before, ∃ condition, ReadsAs earlier condition := by
  induction texts with
  | nil => exact .inl (by simp)
  | cons first texts ih =>
    rcases reads_or_refused first with read | ⟨error, refused⟩
    · rcases ih with all | ⟨before, text, after, error, rfl, refused, earlier⟩
      · exact .inl (List.forall_mem_cons.mpr ⟨read, all⟩)
      · exact .inr ⟨first :: before, text, after, error, rfl, refused,
          List.forall_mem_cons.mpr ⟨read, earlier⟩⟩
    · exact .inr ⟨[], first, texts, error, rfl, refused, by simp⟩

namespace Compilation

theorem addAll_append {compilation middle : Compilation} {before : List String}
    (added : compilation.addAll before = .ok middle) (after : List String) :
    compilation.addAll (before ++ after) = middle.addAll after := by
  induction before generalizing compilation with
  | nil =>
    cases added
    rfl
  | cons text before ih =>
    rw [addAll] at added
    rw [List.cons_append, addAll]
    split at added
    · cases added
    · exact ih added

/-- Every text takes a place among the conditions. -/
theorem Compiles.size_eq {texts : List String} {compilation : Compilation}
    (h : compilation.Compiles texts) : compilation.conditions.size = texts.length := by
  rw [← Array.length_toList]
  exact h.reads.length_eq.symm

theorem addAll_of_refused (compilation : Compilation) {text : String} {error : SyntaxError}
    (refused : RefusedAs text error) (after : List String) :
    compilation.addAll (text :: after) =
      .error ⟨compilation.conditions.size, .invalid error⟩ := by
  rcases refused with ⟨nonempty, parsed⟩
  simp only [addAll, add, nonempty, if_false, parsed]

end Compilation

namespace Matcher

/-- The first text that is refused decides how compiling fails, whatever stands behind it. -/
theorem compile_of_refused (folding : Folding) {before : List String} {text : String}
    {error : SyntaxError} (earlier : ∀ earlier ∈ before, ∃ condition, ReadsAs earlier condition)
    (refused : RefusedAs text error) (after : List String) :
    compile folding (before ++ text :: after) = .error ⟨before.length, .invalid error⟩ := by
  rcases Compilation.exists_addAll earlier .start with ⟨middle, added⟩
  have place : middle.conditions.size = before.length :=
    (Compilation.compiles_start.addAll added).size_eq
  have stopped : Compilation.start.addAll (before ++ text :: after) =
      .error ⟨before.length, .invalid error⟩ := by
    rw [Compilation.addAll_append added, middle.addAll_of_refused refused, place]
  rw [compile, stopped]

theorem exists_refused_of_compile {folding : Folding} {texts : List String} {error : CompileError}
    (failed : compile folding texts = .error error) :
    ∃ before text after fault, texts = before ++ text :: after ∧ RefusedAs text fault ∧
      (∀ earlier ∈ before, ∃ condition, ReadsAs earlier condition) ∧
      error = ⟨before.length, .invalid fault⟩ := by
  rcases exists_first_refused texts with all | ⟨before, text, after, fault, rfl, refused, earlier⟩
  · rcases exists_compile folding all with ⟨matcher, compiled⟩
    rw [compiled] at failed
    cases failed
  · rw [compile_of_refused folding earlier refused] at failed
    exact ⟨before, text, after, fault, rfl, refused, earlier, (Except.error.inj failed).symm⟩

/-- Compiling fails exactly if a text that is not empty is no condition.  It then names the
first such text by its place and gives the reason for which that text alone is refused; that a
negation stands in the way of a normal form is never the reason. -/
theorem compile_eq_error_iff (folding : Folding) (texts : List String) :
    ((∃ error, compile folding texts = .error error) ↔
      ∃ text ∈ texts, text ≠ "" ∧ ∃ fault, Condition.parse text = .error fault) ∧
    (∀ error, compile folding texts = .error error ↔
      ∃ before text after fault, texts = before ++ text :: after ∧
        (text ≠ "" ∧ Condition.parse text = .error fault) ∧
        (∀ earlier ∈ before, earlier = "" ∨
          ∃ condition, Condition.parse earlier = .ok condition) ∧
        error = ⟨before.length, .invalid fault⟩) ∧
    ∀ index, compile folding texts ≠ .error ⟨index, .notNormalized⟩ := by
  refine ⟨⟨?_, ?_⟩, fun error => ⟨?_, ?_⟩, ?_⟩
  · intro fails
    rcases fails with ⟨error, failed⟩
    rcases exists_refused_of_compile failed with
      ⟨before, text, after, fault, rfl, ⟨nonempty, parsed⟩, -, -⟩
    exact ⟨text, by simp, nonempty, fault, parsed⟩
  · intro found
    rcases found with ⟨text, mem, nonempty, fault, parsed⟩
    rcases exists_first_refused texts with all | ⟨before, _, after, _, rfl, refused, earlier⟩
    · rcases all text mem with ⟨condition, read⟩
      exact (RefusedAs.not_readsAs ⟨nonempty, parsed⟩ condition read).elim
    · exact ⟨_, compile_of_refused folding earlier refused after⟩
  · intro failed
    rcases exists_refused_of_compile failed with
      ⟨before, text, after, fault, rfl, refused, earlier, rfl⟩
    refine ⟨before, text, after, fault, rfl, refused, fun other mem => ?_, rfl⟩
    rcases earlier other mem with ⟨_ | condition, read⟩
    · exact .inl read
    · exact .inr ⟨condition, read.2⟩
  · intro found
    rcases found with ⟨before, text, after, fault, rfl, refused, earlier, rfl⟩
    refine compile_of_refused folding (fun other mem => ?_) refused after
    by_cases empty : other = ""
    · exact ⟨none, empty⟩
    · rcases (earlier other mem).resolve_left empty with ⟨condition, parsed⟩
      exact ⟨some condition, empty, parsed⟩
  · intro index failed
    rcases exists_refused_of_compile failed with ⟨before, text, after, fault, -, -, -, same⟩
    cases same

end Matcher

end LiteralLogic
