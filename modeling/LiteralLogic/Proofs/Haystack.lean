import LiteralLogic.Haystack
import LiteralLogic.Proofs.Text.Lowercase

/-!
# Occurrences with and without case

A literal without case is found where its text stands in the input, if folding the input
folds the text where it stands as it is folded alone.  The letters A to Z are folded one by
one, so under ASCII folding this is always so.  Under Unicode folding it is so where every
capital sigma of the text keeps its form: a sigma that is final in the text alone may stand
inside a word of the input (`not_contains_of_final_sigma`).
-/

namespace LiteralLogic.Haystack

variable {folding : Folding} {input : String}

theorem contains_exact_iff (text : String) :
    (ofText folding input).contains ⟨text, false⟩ = true ↔ text.toList <:+: input.toList :=
  contains_iff

theorem contains_ignoringCase_iff (text : String) :
    (ofText folding input).contains ⟨text, true⟩ = true ↔
      folding.foldChars text.toList <:+: folding.foldChars input.toList := by
  rw [contains_iff]
  show (folding.fold text).toList <:+: folding.foldChars input.toList ↔ _
  rw [folding.toList_fold]

/-- What stands in an input stands in it folded, wherever it is folded as by itself. -/
theorem foldChars_infix {before text after : List Char}
    (kept : folding = .unicode → ∀ left right, text = left ++ 'Σ' :: right →
      Text.sigmaIsFinal (before ++ left) (right ++ after) = Text.sigmaIsFinal left right) :
    folding.foldChars text <:+: folding.foldChars (before ++ text ++ after) := by
  cases folding with
  | ascii =>
    refine ⟨Text.asciiLowercase before, Text.asciiLowercase after, ?_⟩
    simp only [Folding.foldChars, Text.asciiLowercase_append]
  | unicode =>
    rcases Text.lowercase_append before text after with ⟨start, rest, whole⟩
    have part : Text.lowercaseBetween before after text = Text.lowercase text := by
      rw [Text.lowercase_eq_lowercaseBetween, Text.lowercaseBetween_eq_iff]
      intro left right split
      rw [kept rfl left right split, List.nil_append, List.append_nil]
    exact ⟨start, rest, by rw [Folding.foldChars, whole, part]⟩

/-- A literal that is found in a part of an input is found in the input, if it asks for letter
case or the letters are folded one by one. -/
theorem contains_of_part {whole : String} (part : input.toList <:+: whole.toList)
    {literal : Literal} (plain : folding = .ascii ∨ literal.caseInsensitive = false)
    (found : (ofText folding input).contains literal = true) :
    (ofText folding whole).contains literal = true := by
  rcases literal with ⟨text, caseInsensitive⟩
  cases caseInsensitive with
  | false =>
    rw [contains_exact_iff] at found ⊢
    exact found.trans part
  | true =>
    rcases plain with rfl | sensitive
    · rcases part with ⟨before, after, parts⟩
      rw [contains_ignoringCase_iff] at found ⊢
      have folded : Folding.ascii.foldChars input.toList <:+:
          Folding.ascii.foldChars (before ++ input.toList ++ after) := foldChars_infix (by simp)
      rw [← parts]
      exact found.trans folded
    · cases sensitive

/-- A literal that is found with case is found without case: under ASCII folding always, and
under Unicode folding if, at one of the places where it stands in the input, its capital sigmas
are final exactly if they are final in the literal alone. -/
theorem contains_ignoringCase_of_contains {text : String}
    (found : (ofText folding input).contains ⟨text, false⟩ = true)
    (kept : folding = .unicode → ∃ before after, input.toList = before ++ text.toList ++ after ∧
      ∀ left right, text.toList = left ++ 'Σ' :: right →
        Text.sigmaIsFinal (before ++ left) (right ++ after) = Text.sigmaIsFinal left right) :
    (ofText folding input).contains ⟨text, true⟩ = true := by
  rw [contains_ignoringCase_iff]
  cases folding with
  | ascii =>
    rcases (contains_exact_iff text).mp found with ⟨before, after, whole⟩
    rw [← whole]
    exact foldChars_infix (by simp)
  | unicode =>
    rcases kept rfl with ⟨before, after, whole, keeps⟩
    rw [whole]
    exact foldChars_infix fun _ => keeps

/-- Where the word of the input ends with the literal, the sigma keeps its form. -/
theorem contains_final_sigma :
    (ofText .unicode "ΑΣΒ ΑΣ").contains ⟨"ΑΣ", false⟩ = true ∧
      (ofText .unicode "ΑΣΒ ΑΣ").contains ⟨"ΑΣ", true⟩ = true := by
  have found : (ofText .unicode "ΑΣΒ ΑΣ").contains ⟨"ΑΣ", false⟩ = true := by decide +kernel
  have same : Text.lowercaseBetween "ΑΣΒ ".toList [] "ΑΣ".toList =
      Text.lowercaseBetween [] [] "ΑΣ".toList := by decide +kernel
  refine ⟨found, contains_ignoringCase_of_contains found fun _ => ⟨"ΑΣΒ ".toList, [], rfl, ?_⟩⟩
  simpa only [List.nil_append, List.append_nil] using
    (Text.lowercaseBetween_eq_iff _ _ _ _ _).mp same

/-- The literal ends in a final sigma, and in the input its word goes on. -/
theorem not_contains_of_final_sigma :
    (ofText .unicode "ΑΣΒ").contains ⟨"ΑΣ", false⟩ = true ∧
      (ofText .unicode "ΑΣΒ").contains ⟨"ΑΣ", true⟩ = false := by
  decide +kernel

end LiteralLogic.Haystack
