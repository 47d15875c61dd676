import LiteralLogic.Condition.Spelling
import LiteralLogic.Proofs.Parse
import LiteralLogic.Proofs.Token

/-!
# Reading back the text of a condition

The text of a condition spells a row of tokens, `Condition.row`, and the row spells the
condition again.  The first half is about characters and escapes, the second about the
parentheses and the negations; neither depends on which characters stand for themselves.
-/

namespace LiteralLogic

/-! ## Literals -/

namespace Escape

theorem hexDigit_digitChar {d : Nat} (bound : d < 16) : hexDigit d.digitChar = some d := by
  revert d
  decide

theorem number_toDigits (n : Nat) : number 16 hexDigit (Nat.toDigits 16 n) = some n := by
  induction n using Nat.strongRecOn with
  | ind n ih =>
    rw [Nat.toDigits_eq_if (by decide)]
    split
    · rename_i small
      exact numberFrom_cons.mpr ⟨n, hexDigit_digitChar small, by simp [numberFrom]⟩
    · have front : numberFrom 16 hexDigit 0 (Nat.toDigits 16 (n / 16)) = some (n / 16) :=
        ih (n / 16) (by omega)
      show numberFrom 16 hexDigit 0 (_ ++ _) = some n
      rw [numberFrom_append front, numberFrom_cons]
      refine ⟨n % 16, hexDigit_digitChar (Nat.mod_lt n (by decide)), ?_⟩
      have whole : n / 16 * 16 + n % 16 = n := by omega
      rw [whole]
      rfl

theorem spells_numbered (c : Char) : Spells (['u', '{'] ++ Nat.toDigits 16 c.toNat ++ ['}']) c := by
  have range : c.toNat < 16 ^ 6 := by
    have valid : c.toNat.isValidChar := c.valid
    unfold Nat.isValidChar at valid
    omega
  exact .braced Nat.length_toDigits_pos
    ((Nat.length_toDigits_le_iff (by decide) (by decide)).mpr range) (number_toDigits _)

theorem bodySpells_quoted (verbatim : Char → Bool) (c : Char) {body text : List Char}
    (h : BodySpells body text) : BodySpells (Text.quoted verbatim '"' c ++ body) (c :: text) := by
  have long : ∀ {spelling : List Char}, spelling ≠ ['0'] → Spells spelling c →
      BodySpells ('\\' :: spelling ++ body) (c :: text) := by
    intro spelling ne spelled
    exact .escape spelled (fun same => absurd same ne) h
  unfold Text.quoted
  split
  · subst c
    exact long (by decide) (.control (by decide))
  split
  · subst c
    exact long (by decide) (.control (by decide))
  split
  · subst c
    exact long (by decide) (.control (by decide))
  split
  · rename_i mark
    rcases mark with rfl | rfl
    · exact long (by decide) (.mark (by decide))
    · exact long (by decide) (.mark (by decide))
  · rename_i mark
    obtain ⟨backslash, quote⟩ := not_or.mp mark
    split
    · exact .plain quote backslash h
    · exact long (by simp) (spells_numbered c)

theorem bodySpells_flatMap_quoted (verbatim : Char → Bool) (text : List Char) :
    BodySpells (text.flatMap (Text.quoted verbatim '"')) text := by
  induction text with
  | nil => exact .nil
  | cons c text ih => exact bodySpells_quoted verbatim c ih

end Escape

theorem Literal.spells_spelling (verbatim : Char → Bool) (literal : Literal) :
    Token.Spells (literal.spelling verbatim) (some (.literal literal)) := by
  obtain ⟨text, caseInsensitive⟩ := literal
  have body := Escape.bodySpells_flatMap_quoted verbatim text.toList
  cases caseInsensitive with
  | false =>
    have spelled := Token.Spells.sensitive body
    rw [String.ofList_toList] at spelled
    exact spelled
  | true =>
    have spelled := Token.Spells.insensitive body
    rw [String.ofList_toList] at spelled
    exact spelled

/-! ## Rows -/

/-- The text spells tokens of these kinds wherever it stands. -/
def SpellsRow (text : List Char) (row : List TokenKind) : Prop :=
  ∀ offset, ∃ tokens, Token.RowSpells offset text tokens ∧ tokens.map Token.kind = row

namespace SpellsRow

theorem nil : SpellsRow [] [] :=
  fun _ => ⟨[], .nil, rfl⟩

theorem token {piece : List Char} {kind : TokenKind} (h : Token.Spells piece (some kind)) :
    SpellsRow piece [kind] := by
  intro offset
  have row : Token.RowSpells offset (piece ++ []) [⟨kind, offset, piece.length⟩] := .token h .nil
  rw [List.append_nil] at row
  exact ⟨_, row, rfl⟩

theorem blank {c : Char} (h : Token.isSeparator c = true) : SpellsRow [c] [] := by
  intro offset
  exact ⟨[], .blank (.blank h) .nil, rfl⟩

theorem append {text behind : List Char} {row further : List TokenKind}
    (h : SpellsRow text row) (hb : SpellsRow behind further) :
    SpellsRow (text ++ behind) (row ++ further) := by
  intro offset
  obtain ⟨tokens, spelled, kinds⟩ := h offset
  obtain ⟨tokens', spelled', kinds'⟩ := hb (offset + text.length)
  exact ⟨tokens ++ tokens', spelled.append spelled', by rw [List.map_append, kinds, kinds']⟩

/-- A word in capital letters. -/
theorem word (operator : Operator) : SpellsRow operator.letters [.operator operator] :=
  token (.word (by cases operator <;> decide))

/-- A word between two other parts of a text, with blanks around it. -/
theorem binary {text behind : List Char} {row further : List TokenKind} (operator : Operator)
    (h : SpellsRow text row) (hb : SpellsRow behind further) :
    SpellsRow (text ++ ([' '] ++ operator.letters ++ [' ']) ++ behind)
      (row ++ .operator operator :: further) := by
  have space : SpellsRow [' '] [] := blank (by decide)
  have whole := (h.append ((space.append (word operator)).append space)).append hb
  simpa using whole

theorem group {text : List Char} {row : List TokenKind} (h : SpellsRow text row) :
    SpellsRow ('(' :: text ++ [')']) (.openParen :: row ++ [.closeParen]) :=
  ((token .openParen).append h).append (token .closeParen)

theorem negated {text : List Char} {row : List TokenKind} (h : SpellsRow text row) :
    SpellsRow (Operator.not.letters ++ [' '] ++ text) (.operator .not :: row) :=
  ((word .not).append (blank (by decide))).append h

/-- A text is read as the condition that its tokens spell. -/
theorem parse_eq {text : List Char} {row : List TokenKind} {condition : Condition}
    (h : SpellsRow text row) (derives : Derives .disjunction row condition) :
    Condition.parse (String.ofList text) = .ok condition := by
  obtain ⟨tokens, spelled, rfl⟩ := h 1
  rw [← String.toList_ofList (l := text)] at spelled
  rw [Condition.parse, Token.scan_of_rowSpells spelled]
  exact ofTokens_of_derives derives

end SpellsRow

namespace Condition

/-! ## Conditions -/

/-- The tokens in the text of a condition. -/
def row : Condition → List TokenKind
  | .and left right => .openParen :: (left.row ++ .operator .and :: right.row) ++ [.closeParen]
  | .or left right => .openParen :: (left.row ++ .operator .or :: right.row) ++ [.closeParen]
  | .not operand =>
    if operand.isNegation then .operator .not :: (.openParen :: operand.row ++ [.closeParen])
    else .operator .not :: operand.row
  | .leaf literal => [.literal literal]

/-- The level of the grammar to which the text of a condition belongs. -/
def level (condition : Condition) : GrammarLevel :=
  if condition.isNegation then .unary else .primary

theorem spellsRow_spelling (verbatim : Char → Bool) (condition : Condition) :
    SpellsRow (condition.spelling verbatim) condition.row := by
  induction condition with
  | and left right ihl ihr =>
    simpa [spelling, row, Operator.letters] using (SpellsRow.binary .and ihl ihr).group
  | or left right ihl ihr =>
    simpa [spelling, row, Operator.letters] using (SpellsRow.binary .or ihl ihr).group
  | not operand ih =>
    by_cases negation : operand.isNegation
    · simpa [spelling, row, negation, Operator.letters] using ih.group.negated
    · simpa [spelling, row, negation, Operator.letters] using ih.negated
  | leaf literal => exact .token (literal.spells_spelling verbatim)

theorem derives_unary {condition : Condition}
    (h : Derives condition.level condition.row condition) :
    Derives .unary condition.row condition := by
  unfold level at h
  split at h
  · exact h
  · exact .primary h

/-- The row of a condition spells it; the negations are the only rows that are no
primaries, and they stand in parentheses where a primary is needed. -/
theorem derives_row (condition : Condition) :
    Derives condition.level condition.row condition := by
  induction condition with
  | and left right ihl ihr =>
    have left := Derives.unary (derives_unary ihl)
    exact .group (.conjunction (.and left (derives_unary ihr)))
  | or left right ihl ihr =>
    have left := Derives.conjunction (.unary (derives_unary ihl))
    exact .group (.or left (.unary (derives_unary ihr)))
  | not operand ih =>
    show Derives .unary (row (.not operand)) (.not operand)
    by_cases negation : operand.isNegation
    · rw [row, if_pos negation]
      exact .not (.group (.conjunction (.unary (derives_unary ih))))
    · rw [row, if_neg negation]
      rw [level, if_neg negation] at ih
      exact .not ih
  | leaf literal => exact .literal literal

theorem parse_spelling (verbatim : Char → Bool) (condition : Condition) :
    parse (String.ofList (condition.spelling verbatim)) = .ok condition :=
  (condition.spellsRow_spelling verbatim).parse_eq
    (.conjunction (.unary (derives_unary condition.derives_row)))

theorem parse_eq_of_render (condition : Condition) : parse condition.render = .ok condition := by
  have spelled := condition.parse_spelling Text.isVerbatim
  rw [← condition.toList_render, String.ofList_toList] at spelled
  exact spelled

/-- The text of a condition is read as the condition, and would be whichever characters
of the literals were written as themselves. -/
theorem parse_render (condition : Condition) :
    parse condition.render = .ok condition ∧
      ∀ verbatim : Char → Bool,
        parse (String.ofList (condition.spellBetween verbatim [] [])) = .ok condition := by
  have every : ∀ verbatim : Char → Bool,
      parse (String.ofList (condition.spellBetween verbatim [] [])) = .ok condition := by
    intro verbatim
    rw [spellBetween_eq, List.reverse_nil, List.nil_append, List.append_nil]
    exact parse_spelling verbatim condition
  exact ⟨every Text.isVerbatim, every⟩

end Condition

end LiteralLogic
