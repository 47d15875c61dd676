import LiteralLogic.Proofs.Grammar
import LiteralLogic.Proofs.RoundTrip
import LiteralLogic.Proofs.Token.Pieces

/-!
# Conditions put together from texts

A text that is read as a condition may be put in parentheses, negated and joined to another
one.  Its pieces stay the same wherever it stands, because no piece goes on into the
parenthesis behind it, and its tokens spell the same condition in a group.
-/

namespace LiteralLogic

/-- The pieces of a text spell tokens of the same kinds wherever the text stands. -/
theorem Token.RowSpells.spellsRow {start : Nat} {text : List Char} {tokens : List Token}
    (h : RowSpells start text tokens) : SpellsRow text (tokens.map Token.kind) := by
  induction h with
  | nil => exact .nil
  | blank spelled _ ih =>
    cases spelled with
    | blank separator => exact (SpellsRow.blank separator).append ih
  | token spelled _ ih => exact (SpellsRow.token spelled).append ih

namespace Condition

/-- A text that is read spells a row of tokens from which its condition is derived. -/
theorem exists_row_of_parse {text : String} {condition : Condition}
    (read : parse text = .ok condition) :
    ∃ row, SpellsRow text.toList row ∧ Derives .disjunction row condition := by
  unfold parse at read
  split at read
  · rename_i tokens scanned
    exact ⟨_, (Token.rowSpells_of_scan scanned).spellsRow, derives_of_ofTokens read⟩
  · cases read

/-- A text that is read is a primary when it stands in parentheses. -/
theorem exists_group_of_parse {text : String} {condition : Condition}
    (read : parse text = .ok condition) :
    ∃ row, SpellsRow ('(' :: text.toList ++ [')']) row ∧ Derives .primary row condition := by
  rcases exists_row_of_parse read with ⟨row, spelled, derives⟩
  exact ⟨_, spelled.group, .group derives⟩

theorem parse_eq_of_spellsRow {text : String} {letters : List Char} {row : List TokenKind}
    {condition : Condition} (spelled : SpellsRow letters row)
    (derives : Derives .disjunction row condition) (same : text.toList = letters) :
    parse text = .ok condition := by
  subst same
  have read := spelled.parse_eq derives
  rw [String.ofList_toList] at read
  exact read

section Joined

variable {text text' : String} {condition condition' : Condition}

theorem parse_not_group (read : parse text = .ok condition) :
    parse ("NOT (" ++ text ++ ")") = .ok (.not condition) := by
  rcases exists_group_of_parse read with ⟨row, spelled, primary⟩
  have negation : Derives .disjunction (.operator .not :: row) (.not condition) :=
    .conjunction (.unary (.not primary))
  exact parse_eq_of_spellsRow spelled.negated negation (by simp [Operator.letters])

theorem parse_group_and_group (read : parse text = .ok condition)
    (read' : parse text' = .ok condition') :
    parse ("(" ++ text ++ ") AND (" ++ text' ++ ")") = .ok (.and condition condition') := by
  rcases exists_group_of_parse read with ⟨row, spelled, left⟩
  rcases exists_group_of_parse read' with ⟨row', spelled', right⟩
  have conjunction :
      Derives .disjunction (row ++ .operator .and :: row') (.and condition condition') :=
    .conjunction (.and (.unary (.primary left)) (.primary right))
  exact parse_eq_of_spellsRow (.binary .and spelled spelled') conjunction
    (by simp [Operator.letters])

theorem parse_group_or_group (read : parse text = .ok condition)
    (read' : parse text' = .ok condition') :
    parse ("(" ++ text ++ ") OR (" ++ text' ++ ")") = .ok (.or condition condition') := by
  rcases exists_group_of_parse read with ⟨row, spelled, left⟩
  rcases exists_group_of_parse read' with ⟨row', spelled', right⟩
  have disjunction :
      Derives .disjunction (row ++ .operator .or :: row') (.or condition condition') :=
    .or left.disjunction_of_primary (.unary (.primary right))
  exact parse_eq_of_spellsRow (.binary .or spelled spelled') disjunction
    (by simp [Operator.letters])

/-- Texts that are read, put in parentheses and negated or joined, are read as the negation,
the conjunction and the disjunction of the conditions that they are read as alone. -/
theorem parse_groups (read : parse text = .ok condition) (read' : parse text' = .ok condition') :
    parse ("NOT (" ++ text ++ ")") = .ok (.not condition) ∧
      parse ("(" ++ text ++ ") AND (" ++ text' ++ ")") = .ok (.and condition condition') ∧
      parse ("(" ++ text ++ ") OR (" ++ text' ++ ")") = .ok (.or condition condition') :=
  ⟨parse_not_group read, parse_group_and_group read read', parse_group_or_group read read'⟩

end Joined

/-- A text that ends in the suffix of a literal and one with parentheses at both ends. -/
theorem parse_groups_of_suffix_and_parens :
    parse "NOT (\"a)\" or\t\"b\"i)" =
        .ok (.not (.or (.leaf ⟨"a)", false⟩) (.leaf ⟨"b", true⟩))) ∧
      parse "(\"a)\" or\t\"b\"i) AND ((\"c\")AND(\"d\"))" =
        .ok (.and (.or (.leaf ⟨"a)", false⟩) (.leaf ⟨"b", true⟩))
          (.and (.leaf ⟨"c", false⟩) (.leaf ⟨"d", false⟩))) ∧
      parse "(\"a)\" or\t\"b\"i) OR ((\"c\")AND(\"d\"))" =
        .ok (.or (.or (.leaf ⟨"a)", false⟩) (.leaf ⟨"b", true⟩))
          (.and (.leaf ⟨"c", false⟩) (.leaf ⟨"d", false⟩))) := by
  have read : parse "\"a)\" or\t\"b\"i" =
      .ok (.or (.leaf ⟨"a)", false⟩) (.leaf ⟨"b", true⟩)) := rfl
  have read' : parse "(\"c\")AND(\"d\")" =
      .ok (.and (.leaf ⟨"c", false⟩) (.leaf ⟨"d", false⟩)) := rfl
  exact parse_groups read read'

end Condition

end LiteralLogic
