import LiteralLogic.Text.Lowercase

/-!
# A part of a text in small letters

Lowering a text lowers each part of it between what stands before and after the part
(`lowercase_append`).  What stands around a part matters to its capital sigmas only: a part
becomes the same in two places exactly if each of its capital sigmas is final in both or in
neither (`lowercaseBetween_eq_iff`).
-/

namespace LiteralLogic.Text

/-- Whether the last character that counts is cased. -/
def endsCased (text : List Char) : Bool :=
  startsCased text.reverse

/-- Whether a capital sigma that stands between two texts is final. -/
def sigmaIsFinal (before after : List Char) : Bool :=
  endsCased before && !startsCased after

/-- What a part of a text becomes that stands between two other parts. -/
def lowercaseBetween (before after : List Char) : List Char → List Char
  | [] => []
  | c :: rest =>
    lowerAt (endsCased before) c (rest ++ after) ++ lowercaseBetween (before ++ [c]) after rest

theorem endsCased_concat (text : List Char) (c : Char) :
    endsCased (text ++ [c]) = casedAfter (endsCased text) c := by
  rw [endsCased, List.reverse_append]
  rfl

theorem lowercaseAfter_append (before text after : List Char) :
    lowercaseAfter (endsCased before) (text ++ after) =
      lowercaseBetween before after text ++ lowercaseAfter (endsCased (before ++ text)) after := by
  induction text generalizing before with
  | nil => rw [List.append_nil, List.nil_append, lowercaseBetween, List.nil_append]
  | cons c text ih =>
    rw [List.cons_append, lowercaseAfter, ← endsCased_concat, ih, lowercaseBetween,
      List.append_assoc, List.append_assoc, List.singleton_append]

/-- A text stands between nothing and nothing. -/
theorem lowercase_eq_lowercaseBetween (text : List Char) :
    lowercase text = lowercaseBetween [] [] text := by
  have whole := lowercaseAfter_append [] text []
  rw [List.append_nil, lowercaseAfter, List.append_nil] at whole
  rw [lowercase_eq, ← whole]
  rfl

/-- Lowering a text lowers each part where it stands. -/
theorem lowercase_append (before text after : List Char) :
    ∃ start rest, lowercase (before ++ text ++ after) =
      start ++ lowercaseBetween before after text ++ rest := by
  have first : lowercaseAfter false (before ++ (text ++ after)) = _ :=
    lowercaseAfter_append [] before (text ++ after)
  refine ⟨lowercaseBetween [] (text ++ after) before,
    lowercaseAfter (endsCased (before ++ text)) after, ?_⟩
  rw [lowercase_eq, List.append_assoc, first, List.nil_append, lowercaseAfter_append,
    List.append_assoc]

/-! ## The capital sigmas of a part -/

/-- A character other than the capital sigma becomes the same in all places. -/
theorem lowerAt_of_ne {c : Char} (other : c ≠ 'Σ') (afterCased afterCased' : Bool)
    (rest rest' : List Char) : lowerAt afterCased c rest = lowerAt afterCased' c rest' := by
  rw [lowerAt, lowerAt, if_neg other, if_neg other]

theorem lowerAt_sigma (before after : List Char) :
    lowerAt (endsCased before) 'Σ' after = if sigmaIsFinal before after then ['ς'] else ['σ'] :=
  if_pos rfl

/-- A character becomes the same in two places exactly if it is no capital sigma, or final in
both or in neither. -/
theorem lowerAt_eq_iff (c : Char) (before after before' after' : List Char) :
    lowerAt (endsCased before) c after = lowerAt (endsCased before') c after' ↔
      (c = 'Σ' → sigmaIsFinal before after = sigmaIsFinal before' after') := by
  by_cases sigma : c = 'Σ'
  · subst sigma
    rw [lowerAt_sigma, lowerAt_sigma]
    cases sigmaIsFinal before after <;> cases sigmaIsFinal before' after' <;> decide
  · exact iff_of_true (lowerAt_of_ne sigma _ _ _ _) fun same => absurd same sigma

/-- A character becomes as many characters in all places. -/
theorem length_lowerAt (c : Char) (before after before' after' : List Char) :
    (lowerAt (endsCased before) c after).length =
      (lowerAt (endsCased before') c after').length := by
  by_cases sigma : c = 'Σ'
  · subst sigma
    rw [lowerAt_sigma, lowerAt_sigma]
    cases sigmaIsFinal before after <;> cases sigmaIsFinal before' after' <;> rfl
  · rw [lowerAt_of_ne sigma]

/-- A part of a text becomes the same in two places exactly if every capital sigma in it is
final in both or in neither. -/
theorem lowercaseBetween_eq_iff (text before after before' after' : List Char) :
    lowercaseBetween before after text = lowercaseBetween before' after' text ↔
      ∀ left right, text = left ++ 'Σ' :: right →
        sigmaIsFinal (before ++ left) (right ++ after) =
          sigmaIsFinal (before' ++ left) (right ++ after') := by
  induction text generalizing before before' with
  | nil => simp [lowercaseBetween]
  | cons c text ih =>
    have first := lowerAt_eq_iff c before (text ++ after) before' (text ++ after')
    have rest := ih (before ++ [c]) (before' ++ [c])
    simp only [List.append_assoc, List.singleton_append] at rest
    rw [lowercaseBetween, lowercaseBetween]
    constructor
    · intro same left right split
      rcases List.append_inj same (length_lowerAt _ _ _ _ _) with ⟨sameFirst, sameRest⟩
      rcases List.cons_eq_append_iff.mp split with ⟨rfl, atStart⟩ | ⟨left, rfl, later⟩
      · rcases List.cons.inj atStart.symm with ⟨sigma, rfl⟩
        rw [List.append_nil, List.append_nil]
        exact first.mp sameFirst sigma
      · exact rest.mp sameRest left right later
    · intro kept
      have sameFirst := first.mpr fun sigma => by
        simpa only [List.append_nil] using kept [] text (congrArg (· :: text) sigma)
      have sameRest := rest.mpr fun left right split =>
        kept (c :: left) right (congrArg (c :: ·) split)
      rw [sameFirst, sameRest]

end LiteralLogic.Text
