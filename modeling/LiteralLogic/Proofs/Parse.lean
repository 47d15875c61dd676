import LiteralLogic.Grammar
import LiteralLogic.Parse
import LiteralLogic.Token.Brackets

/-!
# Reading what the grammar spells

`Reads` says, for each level of the grammar, what the reader does with tokens that spell
a condition at that level: it ends with the condition in the place where an operand was
missing, and with whatever stands behind the tokens still to be read.  `reads_of_derives`
is the induction on the derivation.
-/

namespace LiteralLogic

/-- Tokens of which one kind stands between others. -/
theorem exists_split {tokens : List Token} {front behind : List TokenKind} {kind : TokenKind}
    (kinds : tokens.map Token.kind = front ++ kind :: behind) :
    ∃ before token after, tokens = before ++ token :: after ∧ before.map Token.kind = front ∧
      token.kind = kind ∧ after.map Token.kind = behind := by
  obtain ⟨before, rest, rfl, front_kinds, rest_kinds⟩ := List.map_eq_append_iff.mp kinds
  obtain ⟨token, after, rfl, token_kind, behind_kinds⟩ := List.map_eq_cons_iff.mp rest_kinds
  exact ⟨before, token, after, rfl, front_kinds, token_kind, behind_kinds⟩

/-! ## Parentheses -/

/-- What the grammar spells is balanced. -/
theorem Derives.balanced {level : GrammarLevel} {row : List TokenKind} {condition : Condition}
    (h : Derives level row condition) : Balanced row := by
  induction h with
  | literal literal => exact .other rfl .nil
  | group _ ih => exact .group ih .nil
  | primary _ ih | unary _ ih | conjunction _ ih => exact ih
  | not _ ih => exact .other rfl ih
  | and _ _ ihl ihr | or _ _ ihl ihr => exact ihl.append (.other rfl ihr)

theorem closes_of_isParen_eq_false {token : Token} (h : token.kind.isParen = false) (depth : Nat)
    (rest : List Token) : closes depth (token :: rest) = closes depth rest := by
  obtain ⟨kind, offset, length⟩ := token
  cases kind with
  | openParen | closeParen => cases h
  | operator | literal => rfl

/-- Balanced tokens change nothing for the parentheses that are open before them. -/
theorem closes_append_of_balanced {row : List TokenKind} (h : Balanced row) {tokens : List Token}
    (kinds : tokens.map Token.kind = row) (depth : Nat) (rest : List Token) :
    closes depth (tokens ++ rest) = closes depth rest := by
  induction h generalizing tokens depth rest with
  | nil =>
    rw [List.map_eq_nil_iff.mp kinds]
    rfl
  | other plain _ ih =>
    obtain ⟨token, tokens, rfl, rfl, behind⟩ := List.map_eq_cons_iff.mp kinds
    rw [List.cons_append, closes_of_isParen_eq_false plain, ih behind]
  | group _ _ ihi ihb =>
    obtain ⟨front, closing, behind, rfl, front_kinds, close_kind, behind_kinds⟩ :=
      exists_split kinds
    obtain ⟨opening, inside, rfl, open_kind, inside_kinds⟩ := List.map_eq_cons_iff.mp front_kinds
    simp only [List.cons_append, List.append_assoc]
    simp only [closes, open_kind]
    rw [ihi inside_kinds]
    simp only [closes, close_kind]
    exact ihb behind_kinds depth rest

/-! ## Levels -/

/-- Whether a level waits for the operand of a NOT. -/
def Gap.negates (gap : Gap) : Bool :=
  match gap.pending with
  | some (.not, _) => true
  | _ => false

/-- A NOT that may stand in the gap is put before its operand. -/
theorem Gap.exists_notGap {gap : Gap} (plain : gap.negates = false) (offset : Nat) :
    ∃ next, gap.notGap offset = some next ∧
      ∀ operand, next.fill operand = gap.fill (.not operand) := by
  obtain ⟨disjuncts, conjuncts, pending⟩ := gap
  rcases pending with - | ⟨operator, place⟩
  · exact ⟨_, rfl, fun _ => rfl⟩
  · cases operator with
    | and | or => exact ⟨_, rfl, fun _ => rfl⟩
    | not => cases plain

theorem Gap.fill_of_plain {gap : Gap} (plain : gap.negates = false) (operand : Condition) :
    gap.fill operand =
      ⟨gap.disjuncts, gap.conjuncts.elim operand fun conjuncts => .and conjuncts operand⟩ := by
  obtain ⟨disjuncts, conjuncts, pending⟩ := gap
  rcases pending with - | ⟨operator, place⟩
  · cases conjuncts <;> rfl
  · cases operator with
    | and | or => cases conjuncts <;> rfl
    | not => cases plain

/-- What the reader does with tokens that spell a condition at a level of the grammar.  A
primary fits every gap, a unary one without a NOT, and a conjunction or a disjunction
begins its level. -/
def Reads (tokens : List Token) (condition : Condition) : GrammarLevel → Prop
  | .primary => ∀ gap groups rest,
    readOperand gap groups (tokens ++ rest) = readOperator (gap.fill condition) groups rest
  | .unary => ∀ gap groups rest, gap.negates = false →
    readOperand gap groups (tokens ++ rest) = readOperator (gap.fill condition) groups rest
  | .conjunction => ∀ gap groups rest, gap.negates = false → gap.conjuncts = none →
    readOperand gap groups (tokens ++ rest) = readOperator ⟨gap.disjuncts, condition⟩ groups rest
  | .disjunction => ∀ groups rest, ∃ level : Partial, level.condition = condition ∧
    readOperand {} groups (tokens ++ rest) = readOperator level groups rest

theorem reads_literal {token : Token} {literal : Literal} (kind : token.kind = .literal literal) :
    Reads [token] (.leaf literal) .primary := by
  intro gap groups rest
  simp only [List.singleton_append, readOperand, kind]

theorem reads_group {opening closing : Token} {inside : List Token} {condition : Condition}
    (open_kind : opening.kind = .openParen) (close_kind : closing.kind = .closeParen)
    (balanced : Balanced (inside.map Token.kind)) (reads : Reads inside condition .disjunction) :
    Reads (opening :: inside ++ [closing]) condition .primary := by
  intro gap groups rest
  have closed : closes 0 (inside ++ (closing :: rest)) = true := by
    rw [closes_append_of_balanced balanced rfl]
    simp only [closes, close_kind]
  obtain ⟨level, same, read⟩ := reads (⟨gap, opening.offset⟩ :: groups) (closing :: rest)
  rw [List.cons_append, List.cons_append, List.append_assoc]
  simp only [readOperand, open_kind, List.singleton_append, closed, if_true]
  rw [read]
  simp only [readOperator, close_kind, same]

theorem reads_not {token : Token} {tokens : List Token} {operand : Condition}
    (kind : token.kind = .operator .not) (reads : Reads tokens operand .primary) :
    Reads (token :: tokens) (.not operand) .unary := by
  intro gap groups rest plain
  obtain ⟨next, known, fill⟩ := Gap.exists_notGap plain token.offset
  simp only [List.cons_append, readOperand, kind, known]
  rw [reads, fill]

theorem reads_and {token : Token} {leftTokens rightTokens : List Token} {left right : Condition}
    (kind : token.kind = .operator .and) (readsLeft : Reads leftTokens left .conjunction)
    (readsRight : Reads rightTokens right .unary) :
    Reads (leftTokens ++ token :: rightTokens) (.and left right) .conjunction := by
  intro gap groups rest plain first
  rw [List.append_assoc, readsLeft gap groups _ plain first, List.cons_append]
  simp only [readOperator, kind]
  rw [readsRight _ groups rest rfl]
  rfl

theorem reads_or {token : Token} {leftTokens rightTokens : List Token} {left right : Condition}
    (kind : token.kind = .operator .or) (readsLeft : Reads leftTokens left .disjunction)
    (readsRight : Reads rightTokens right .conjunction) :
    Reads (leftTokens ++ token :: rightTokens) (.or left right) .disjunction := by
  intro groups rest
  obtain ⟨level, same, read⟩ := readsLeft groups (token :: rightTokens ++ rest)
  refine ⟨⟨some level.condition, right⟩, by rw [← same]; rfl, ?_⟩
  rw [List.append_assoc, read, List.cons_append]
  simp only [readOperator, kind]
  exact readsRight (level.orGap token.offset) groups rest rfl rfl

/-- The reader reads what the grammar spells. -/
theorem reads_of_derives {level : GrammarLevel} {row : List TokenKind} {condition : Condition}
    (h : Derives level row condition) {tokens : List Token}
    (kinds : tokens.map Token.kind = row) : Reads tokens condition level := by
  induction h generalizing tokens with
  | literal literal =>
    obtain ⟨token, rfl, kind⟩ := List.map_eq_singleton_iff.mp kinds
    exact reads_literal kind
  | group inside ih =>
    obtain ⟨front, closing, _, rfl, front_kinds, close_kind, behind_kinds⟩ := exists_split kinds
    obtain ⟨opening, tokens, rfl, open_kind, inside_kinds⟩ := List.map_eq_cons_iff.mp front_kinds
    rw [List.map_eq_nil_iff] at behind_kinds
    subst behind_kinds
    exact reads_group open_kind close_kind (inside_kinds ▸ inside.balanced) (ih inside_kinds)
  | primary _ ih =>
    intro gap groups rest _
    exact ih kinds gap groups rest
  | not _ ih =>
    obtain ⟨token, tokens, rfl, kind, kinds⟩ := List.map_eq_cons_iff.mp kinds
    exact reads_not kind (ih kinds)
  | unary _ ih =>
    intro gap groups rest plain first
    rw [ih kinds gap groups rest plain, Gap.fill_of_plain plain, first]
    rfl
  | and _ _ ihl ihr =>
    obtain ⟨front, token, behind, rfl, front_kinds, kind, behind_kinds⟩ := exists_split kinds
    exact reads_and kind (ihl front_kinds) (ihr behind_kinds)
  | conjunction _ ih =>
    intro groups rest
    exact ⟨⟨none, _⟩, rfl, ih kinds {} groups rest rfl rfl⟩
  | or _ _ ihl ihr =>
    obtain ⟨front, token, behind, rfl, front_kinds, kind, behind_kinds⟩ := exists_split kinds
    exact reads_or kind (ihl front_kinds) (ihr behind_kinds)

theorem ofTokens_of_derives {tokens : List Token} {condition : Condition}
    (h : Derives .disjunction (tokens.map Token.kind) condition) :
    Condition.ofTokens tokens = .ok condition := by
  obtain ⟨level, rfl, read⟩ := reads_of_derives h rfl [] []
  rw [List.append_nil] at read
  rw [Condition.ofTokens, read, readOperator]

end LiteralLogic
