import LiteralLogic.Proofs.Folding
import LiteralLogic.Proofs.Haystack
import LiteralLogic.Proofs.Matcher.Contents
import LiteralLogic.Proofs.RoundTrip

/-!
# Folded inputs and folded conditions

Where no literal asks for letter case, a matcher finds the same conditions in an input and in
the folded input, and so does a matcher of the conditions with the texts of their literals
folded.  Literals that differ in letter case alone become one by that, which the conditions
do not notice: a condition depends on the truth of its literals only.
-/

namespace LiteralLogic

/-! ## Folded literals -/

/-- A literal with its text folded. -/
def Literal.foldText (folding : Folding) (literal : Literal) : Literal :=
  { literal with text := folding.fold literal.text }

namespace Condition

/-- The condition with every literal replaced. -/
def mapLiterals (f : Literal → Literal) : Condition → Condition
  | .and left right => .and (left.mapLiterals f) (right.mapLiterals f)
  | .or left right => .or (left.mapLiterals f) (right.mapLiterals f)
  | .not operand => .not (operand.mapLiterals f)
  | .leaf literal => .leaf (f literal)

/-- The condition with the texts of its literals folded. -/
def foldTexts (folding : Folding) : Condition → Condition :=
  mapLiterals (Literal.foldText folding)

theorem holds_mapLiterals (truth : Literal → Bool) (f : Literal → Literal)
    (condition : Condition) :
    (condition.mapLiterals f).holds truth = condition.holds fun literal => truth (f literal) := by
  induction condition with
  | and left right ihl ihr | or left right ihl ihr => simp only [mapLiterals, holds, ihl, ihr]
  | not operand ih => simp only [mapLiterals, holds, ih]
  | leaf literal => rfl

end Condition

namespace Haystack

variable {folding : Folding} {input : String} {literal : Literal}

theorem contains_foldText (insensitive : literal.caseInsensitive = true) :
    (ofText folding input).contains (literal.foldText folding) =
      (ofText folding input).contains literal := by
  rcases literal with ⟨text, caseInsensitive⟩
  subst insensitive
  rw [Literal.foldText, Bool.eq_iff_iff, contains_ignoringCase_iff, contains_ignoringCase_iff,
    folding.toList_fold, folding.foldChars_foldChars]

theorem contains_fold (insensitive : literal.caseInsensitive = true) :
    (ofText folding (folding.fold input)).contains literal =
      (ofText folding input).contains literal := by
  rcases literal with ⟨text, caseInsensitive⟩
  subst insensitive
  rw [Bool.eq_iff_iff, contains_ignoringCase_iff, contains_ignoringCase_iff,
    folding.toList_fold, folding.foldChars_foldChars]

end Haystack

namespace Condition

variable {folding : Folding} {condition : Condition}
  (insensitive : ∀ literal ∈ condition.literals, literal.caseInsensitive = true)

include insensitive

/-- A condition that ignores letter case does not notice that its input is folded. -/
theorem holds_fold (input : String) :
    condition.holds (Haystack.ofText folding (folding.fold input)).contains =
      condition.holds (Haystack.ofText folding input).contains := by
  apply holds_congr
  intro literal mem
  exact Haystack.contains_fold (insensitive literal mem)

/-- A condition that ignores letter case keeps its truth when its literals are folded. -/
theorem holds_foldTexts (input : String) :
    (condition.foldTexts folding).holds (Haystack.ofText folding input).contains =
      condition.holds (Haystack.ofText folding input).contains := by
  rw [foldTexts, holds_mapLiterals]
  apply holds_congr
  intro literal mem
  exact Haystack.contains_foldText (insensitive literal mem)

end Condition

/-! ## Folded sets of conditions -/

/-- The second text is read as the condition of the first one with the texts of its literals
folded, or both are empty. -/
def ReadsFolded (folding : Folding) (text folded : String) : Prop :=
  ∃ entry, ReadsAs text entry ∧ ReadsAs folded (entry.map (Condition.foldTexts folding))

theorem ReadsFolded.ofText?_eq {folding : Folding} {text folded : String}
    (h : ReadsFolded folding text folded) :
    Condition.ofText? folded = (Condition.ofText? text).map (Condition.foldTexts folding) := by
  rcases h with ⟨entry, reads, readsFolded⟩
  rw [reads.ofText?_eq, readsFolded.ofText?_eq]

theorem exists_readsFolded (folding : Folding) {text : String} {entry : Option Condition}
    (reads : ReadsAs text entry) : ∃ folded, ReadsFolded folding text folded := by
  cases entry with
  | none => exact ⟨"", none, reads, rfl⟩
  | some condition =>
    have folded := (condition.foldTexts folding).parse_eq_of_render
    exact ⟨_, some condition, reads, ReadsAs.of_parse folded⟩

theorem exists_forall₂_readsFolded (folding : Folding) {texts : List String}
    {entries : List (Option Condition)} (reads : List.Forall₂ ReadsAs texts entries) :
    ∃ folded, List.Forall₂ (ReadsFolded folding) texts folded := by
  induction reads with
  | nil => exact ⟨[], .nil⟩
  | cons first _ ih =>
    rcases exists_readsFolded folding first with ⟨text, readsFirst⟩
    rcases ih with ⟨folded, readsRest⟩
    exact ⟨text :: folded, .cons readsFirst readsRest⟩

theorem map_ofText?_of_readsFolded {folding : Folding} {texts folded : List String}
    (h : List.Forall₂ (ReadsFolded folding) texts folded) :
    folded.map Condition.ofText? =
      (texts.map Condition.ofText?).map (Option.map (Condition.foldTexts folding)) := by
  induction h with
  | nil => rfl
  | cons first _ ih => rw [List.map_cons, List.map_cons, List.map_cons, ih, first.ofText?_eq]

namespace Matcher

/-- What is found is decided by which conditions are found. -/
theorem satisfied_eq_of_mem_iff {matcher other : Matcher} {input input' : String}
    (same : ∀ index, index ∈ matcher.satisfied input ↔ index ∈ other.satisfied input') :
    matcher.satisfied input = other.satisfied input' := by
  have ascends : ∀ (matcher : Matcher) (input : String),
      (matcher.satisfied input).Pairwise fun a b => compare a b = .lt := by
    intro matcher input
    exact (DecisionTree.pairwise_conditions_walk _ _).imp Nat.compare_eq_lt.mpr
  exact eq_of_pairwise_lt (ascends matcher input) (ascends other input') same

theorem exists_compile_of_readsFolded {folding : Folding} {texts folded : List String}
    (h : List.Forall₂ (ReadsFolded folding) texts folded) :
    ∃ other, compile folding folded = .ok other := by
  apply exists_compile
  intro text mem
  rcases exists_mem_of_forall₂ h.flip mem with ⟨original, -, entry, -, reads⟩
  exact ⟨_, reads⟩

/-- A matcher of the folded conditions finds them where the conditions themselves are true. -/
theorem mem_satisfied_iff_of_readsFolded {folding : Folding} {texts folded : List String}
    {other : Matcher} (compiled : compile folding folded = .ok other)
    (readsFolded : List.Forall₂ (ReadsFolded folding) texts folded)
    (insensitive : ∀ literal ∈ literalsOf texts, literal.caseInsensitive = true)
    (input : String) (index : Nat) :
    index ∈ other.satisfied input ↔
      ∃ condition, (texts.map Condition.ofText?)[index]? = some (some condition) ∧
        condition.holds (Haystack.ofText folding input).contains = true := by
  have kept : ∀ {condition : Condition},
      (texts.map Condition.ofText?)[index]? = some (some condition) →
      (condition.foldTexts folding).holds (Haystack.ofText folding input).contains =
        condition.holds (Haystack.ofText folding input).contains := by
    intro condition known
    apply Condition.holds_foldTexts
    intro literal mem
    exact insensitive literal (literals_subset_literalsOf known mem)
  rw [mem_satisfied_iff_ofText? compiled, map_ofText?_of_readsFolded readsFolded,
    List.getElem?_map]
  constructor
  · intro found
    rcases found with ⟨_, mapped, holds⟩
    rcases Option.map_eq_some_iff.mp mapped with ⟨entry, known, folds⟩
    rcases Option.map_eq_some_iff.mp folds with ⟨condition, rfl, rfl⟩
    rw [kept known] at holds
    exact ⟨condition, known, holds⟩
  · intro found
    rcases found with ⟨condition, known, holds⟩
    refine ⟨condition.foldTexts folding, by rw [known]; rfl, ?_⟩
    rw [kept known]
    exact holds

/-- If every literal ignores letter case, a matcher finds the same conditions in an input and
in the folded input.  The texts of all literals can be folded as well: texts that are read so
exist, they compile whichever they are, and their matcher finds the same conditions. -/
theorem satisfied_fold {folding : Folding} {texts : List String} {matcher : Matcher}
    (compiled : compile folding texts = .ok matcher)
    (insensitive : ∀ literal ∈ literalsOf texts, literal.caseInsensitive = true) :
    (∀ input, matcher.satisfied (folding.fold input) = matcher.satisfied input) ∧
      (∃ folded, List.Forall₂ (ReadsFolded folding) texts folded) ∧
      ∀ folded, List.Forall₂ (ReadsFolded folding) texts folded →
        ∃ other, compile folding folded = .ok other ∧
          ∀ input, other.satisfied input = matcher.satisfied input := by
  refine ⟨fun input => ?_, ?_, fun folded readsFolded => ?_⟩
  · apply satisfied_eq_of_mem_iff
    intro index
    rw [mem_satisfied_iff_ofText? compiled, mem_satisfied_iff_ofText? compiled]
    refine exists_congr fun condition => and_congr_right fun known => ?_
    have ignores : ∀ literal ∈ condition.literals, literal.caseInsensitive = true :=
      fun literal mem => insensitive literal (literals_subset_literalsOf known mem)
    rw [Condition.holds_fold ignores]
  · rcases exists_compilation compiled with ⟨compilation, compiles, -⟩
    exact exists_forall₂_readsFolded folding compiles.reads
  · rcases exists_compile_of_readsFolded readsFolded with ⟨other, compiled'⟩
    refine ⟨other, compiled', fun input => ?_⟩
    apply satisfied_eq_of_mem_iff
    intro index
    rw [mem_satisfied_iff_of_readsFolded compiled' readsFolded insensitive,
      mem_satisfied_iff_ofText? compiled]

/-- Two literals that become one, a final sigma, a character that becomes two, and an empty
text. -/
theorem satisfied_fold_of_merging : ∃ matcher other,
    compile .unicode ["\"ΑΣ\"i AND NOT \"İ\"i", "", "\"ας\"i"] = .ok matcher ∧
      compile .unicode ["\"ας\"i AND NOT \"i\u0307\"i", "", "\"ας\"i"] = .ok other ∧
      0 ∈ matcher.satisfied "ας" ∧
      matcher.satisfied "ας" = matcher.satisfied "ΑΣ" ∧
      other.satisfied "ΑΣ" = matcher.satisfied "ΑΣ" := by
  have read : Condition.parse "\"ΑΣ\"i AND NOT \"İ\"i" =
      .ok (.and (.leaf ⟨"ΑΣ", true⟩) (.not (.leaf ⟨"İ", true⟩))) := rfl
  have read' : Condition.parse "\"ας\"i AND NOT \"i\u0307\"i" =
      .ok (.and (.leaf ⟨"ας", true⟩) (.not (.leaf ⟨"i\u0307", true⟩))) := rfl
  have readSmall : Condition.parse "\"ας\"i" = .ok (.leaf ⟨"ας", true⟩) := rfl
  have reads : ∀ text ∈ ["\"ΑΣ\"i AND NOT \"İ\"i", "", "\"ας\"i"],
      ∃ entry, ReadsAs text entry := by
    simp only [List.forall_mem_cons]
    exact ⟨⟨_, ReadsAs.of_parse read⟩, ⟨none, rfl⟩, ⟨_, ReadsAs.of_parse readSmall⟩, by simp⟩
  rcases exists_compile .unicode reads with ⟨matcher, compiled⟩
  have insensitive : ∀ literal ∈ literalsOf ["\"ΑΣ\"i AND NOT \"İ\"i", "", "\"ας\"i"],
      literal.caseInsensitive = true := by decide +kernel
  have folds : Condition.foldTexts .unicode
      (.and (.leaf ⟨"ΑΣ", true⟩) (.not (.leaf ⟨"İ", true⟩))) =
        .and (.leaf ⟨"ας", true⟩) (.not (.leaf ⟨"i\u0307", true⟩)) := by decide +kernel
  have foldsSmall : Condition.foldTexts .unicode (.leaf ⟨"ας", true⟩) = .leaf ⟨"ας", true⟩ := by
    decide +kernel
  have foldsInput : Folding.unicode.fold "ΑΣ" = "ας" := by decide +kernel
  have merged : ReadsFolded .unicode "\"ΑΣ\"i AND NOT \"İ\"i"
      "\"ας\"i AND NOT \"i\u0307\"i" := by
    refine ⟨some _, ReadsAs.of_parse read, ?_⟩
    rw [Option.map_some, folds]
    exact ReadsAs.of_parse read'
  have small : ReadsFolded .unicode "\"ας\"i" "\"ας\"i" := by
    refine ⟨some _, ReadsAs.of_parse readSmall, ?_⟩
    rw [Option.map_some, foldsSmall]
    exact ReadsAs.of_parse readSmall
  rcases satisfied_fold compiled insensitive with ⟨sameFolded, -, sameSet⟩
  rcases sameSet _ (.cons merged (.cons ⟨none, rfl, rfl⟩ (.cons small .nil))) with
    ⟨other, compiled', same⟩
  refine ⟨matcher, other, compiled, compiled', ?_, ?_, same "ΑΣ"⟩
  · exact (mem_satisfied_of_ofText? compiled (Condition.getElem?_map_ofText? read rfl) _).mpr
      (by decide +kernel)
  · rw [← foldsInput]
    exact sameFolded "ΑΣ"

end Matcher

end LiteralLogic
