import LiteralLogic.Proofs.Parse
import Mathlib.Logic.ExistsUnique

/-!
# Only what the grammar spells is read

While the reader works, the tokens behind it spell what it keeps: each group around the
current level, and the level itself, be it complete (`Partial.Spelled`) or waiting for an
operand (`Gap.Spelled`).  Every step keeps this, so a row of tokens that is read to its end
spells the condition that comes out.  Together with the converse, reading decides the
grammar, and no row spells two conditions.
-/

namespace LiteralLogic

/-! ## Steps that do not fail -/

theorem readOperand_nil_ne_ok (gap : Gap) (groups : List Group) (condition : Condition) :
    readOperand gap groups [] ≠ .ok condition := by
  cases groups <;> simp [readOperand]

/-- Where an operand is missing, only a literal, an opening parenthesis and a NOT are
accepted. -/
theorem readOperand_cases {gap : Gap} {groups : List Group} {token : Token} {rest : List Token}
    {condition : Condition} (read : readOperand gap groups (token :: rest) = .ok condition) :
    (∃ literal, token.kind = .literal literal ∧
        readOperator (gap.fill (.leaf literal)) groups rest = .ok condition) ∨
      (token.kind = .openParen ∧
        readOperand {} (⟨gap, token.offset⟩ :: groups) rest = .ok condition) ∨
      (∃ next, token.kind = .operator .not ∧ gap.notGap token.offset = some next ∧
        readOperand next groups rest = .ok condition) := by
  unfold readOperand at read
  split at read
  · rename_i literal kind
    exact .inl ⟨literal, kind, read⟩
  · rename_i kind
    split at read
    · exact .inr (.inl ⟨kind, read⟩)
    · cases read
  · split at read <;> cases read
  · rename_i kind
    split at read
    · rename_i next known
      exact .inr (.inr ⟨next, kind, known, read⟩)
    · cases read
  · cases read

theorem readOperator_nil_eq_ok {level : Partial} {groups : List Group} {condition : Condition}
    (read : readOperator level groups [] = .ok condition) :
    groups = [] ∧ condition = level.condition := by
  cases groups with
  | nil =>
    rw [readOperator] at read
    exact ⟨rfl, (Except.ok.inj read).symm⟩
  | cons group groups => cases read

/-- Behind an operand, only AND, OR and the closing parenthesis of a group are accepted. -/
theorem readOperator_cases {level : Partial} {groups : List Group} {token : Token}
    {rest : List Token} {condition : Condition}
    (read : readOperator level groups (token :: rest) = .ok condition) :
    (token.kind = .operator .and ∧
        readOperand (level.andGap token.offset) groups rest = .ok condition) ∨
      (token.kind = .operator .or ∧
        readOperand (level.orGap token.offset) groups rest = .ok condition) ∨
      (∃ group outer, token.kind = .closeParen ∧ groups = group :: outer ∧
        readOperator (group.outer.fill level.condition) outer rest = .ok condition) := by
  unfold readOperator at read
  split at read
  · exact .inl ⟨‹_›, read⟩
  · exact .inr (.inl ⟨‹_›, read⟩)
  · rename_i kind
    split at read
    · cases read
    · rename_i group outer
      exact .inr (.inr ⟨group, outer, kind, rfl, read⟩)
  · cases read

/-! ## What has been read -/

/-- A row spells nothing, where there is no condition, or a condition at a level of the
grammar and the operator behind it. -/
inductive Leads (level : GrammarLevel) (operator : Operator) :
    Option Condition → List TokenKind → Prop
  | start : Leads level operator none []
  | behind {row : List TokenKind} {condition : Condition} :
    Derives level row condition →
    Leads level operator (some condition) (row ++ [.operator operator])

/-- The row spells a level that has been completed by an operand. -/
inductive Partial.Spelled (level : Partial) : List TokenKind → Prop
  | parts {front row : List TokenKind} :
    Leads .disjunction .or level.disjuncts front → Derives .conjunction row level.conjuncts →
    level.Spelled (front ++ row)

/-- The NOT that waits for the operand of a level, if there is one. -/
def Gap.sign (gap : Gap) : List TokenKind :=
  if gap.negates then [.operator .not] else []

/-- The row spells a level that waits for an operand. -/
inductive Gap.Spelled (gap : Gap) : List TokenKind → Prop
  | parts {front row : List TokenKind} :
    Leads .disjunction .or gap.disjuncts front → Leads .conjunction .and gap.conjuncts row →
    gap.Spelled (front ++ row ++ gap.sign)

/-- The row spells the levels around the current one, each up to the parenthesis that
opens the next. -/
inductive Opens : List Group → List TokenKind → Prop
  | nil : Opens [] []
  | group {group : Group} {groups : List Group} {row inner : List TokenKind} :
    Opens groups row → group.outer.Spelled inner →
    Opens (group :: groups) (row ++ inner ++ [.openParen])

theorem Partial.Spelled.derives {level : Partial} {row : List TokenKind} (h : level.Spelled row) :
    Derives .disjunction row level.condition := by
  obtain ⟨disjuncts, conjuncts⟩ := level
  obtain ⟨lead, last⟩ := h
  cases lead with
  | start => exact .conjunction last
  | behind first =>
    have whole := Derives.or first last
    simpa [Partial.condition] using whole

theorem Partial.Spelled.andGap {level : Partial} {row : List TokenKind} (h : level.Spelled row)
    (offset : Nat) : (level.andGap offset).Spelled (row ++ [.operator .and]) := by
  obtain ⟨lead, last⟩ := h
  have parts : (level.andGap offset).Spelled _ := .parts lead (.behind last)
  simpa [Gap.sign, Gap.negates, Partial.andGap] using parts

theorem Partial.Spelled.orGap {level : Partial} {row : List TokenKind} (h : level.Spelled row)
    (offset : Nat) : (level.orGap offset).Spelled (row ++ [.operator .or]) := by
  have parts : (level.orGap offset).Spelled _ := .parts (.behind h.derives) .start
  simpa [Gap.sign, Gap.negates, Partial.orGap] using parts

theorem Gap.spelled_start : ({} : Gap).Spelled [] := by
  have parts : ({} : Gap).Spelled ([] ++ [] ++ Gap.sign {}) := .parts .start .start
  exact parts

/-- A NOT is accepted where none waits for its operand, and waits for it then. -/
theorem Gap.notGap_eq_some {gap next : Gap} {offset : Nat} (h : gap.notGap offset = some next) :
    gap.negates = false ∧ next = { gap with pending := some (.not, offset) } := by
  obtain ⟨disjuncts, conjuncts, pending⟩ := gap
  rcases pending with _ | ⟨_ | _ | _, place⟩
  · exact ⟨rfl, (Option.some.inj h).symm⟩
  · exact ⟨rfl, (Option.some.inj h).symm⟩
  · exact ⟨rfl, (Option.some.inj h).symm⟩
  · cases h

theorem Gap.Spelled.notGap {gap next : Gap} {row : List TokenKind} {offset : Nat}
    (h : gap.Spelled row) (known : gap.notGap offset = some next) :
    next.Spelled (row ++ [.operator .not]) := by
  obtain ⟨plain, rfl⟩ := Gap.notGap_eq_some known
  obtain ⟨lead, last⟩ := h
  have none : gap.sign = [] := by simp [Gap.sign, plain]
  rw [none, List.append_nil]
  exact .parts lead last

/-- The operand of a level with the NOT that may stand before it. -/
theorem Gap.exists_unary (gap : Gap) {row : List TokenKind} {operand : Condition}
    (primary : Derives .primary row operand) :
    ∃ signed, Derives .unary (gap.sign ++ row) signed ∧
      gap.fill operand =
        ⟨gap.disjuncts, gap.conjuncts.elim signed fun conjuncts => .and conjuncts signed⟩ := by
  unfold Gap.sign
  cases plain : gap.negates with
  | false => exact ⟨operand, .primary primary, Gap.fill_of_plain plain operand⟩
  | true =>
    refine ⟨.not operand, .not primary, ?_⟩
    obtain ⟨disjuncts, conjuncts, pending⟩ := gap
    rcases pending with - | ⟨operator, place⟩
    · cases plain
    · cases operator with
      | and | or => cases plain
      | not => cases conjuncts <;> rfl

theorem Gap.Spelled.fill {gap : Gap} {row further : List TokenKind} {operand : Condition}
    (h : gap.Spelled row) (primary : Derives .primary further operand) :
    (gap.fill operand).Spelled (row ++ further) := by
  obtain ⟨signed, unary, filled⟩ := gap.exists_unary primary
  obtain ⟨disjuncts, conjuncts, pending⟩ := gap
  obtain ⟨lead, last⟩ := h
  rw [filled, List.append_assoc, List.append_assoc]
  refine .parts lead ?_
  cases last with
  | start => exact .unary unary
  | behind first =>
    rw [List.append_assoc]
    exact .and first unary

/-- A group that is closed is an operand of the level around it. -/
theorem Gap.Spelled.close {gap : Gap} {level : Partial} {row inner : List TokenKind}
    (h : gap.Spelled row) (inside : level.Spelled inner) :
    (gap.fill level.condition).Spelled (row ++ [.openParen] ++ inner ++ [.closeParen]) := by
  have filled := h.fill (.group inside.derives)
  simpa using filled

/-! ## Whole rows -/

/-- The tokens behind the reader and those before it spell the condition that is read. -/
theorem derives_of_read (tokens : List Token) (condition : Condition) :
    (∀ (gap : Gap) (groups : List Group) (row inner : List TokenKind),
        readOperand gap groups tokens = .ok condition → Opens groups row → gap.Spelled inner →
        Derives .disjunction (row ++ inner ++ tokens.map Token.kind) condition) ∧
      ∀ (level : Partial) (groups : List Group) (row inner : List TokenKind),
        readOperator level groups tokens = .ok condition → Opens groups row →
        level.Spelled inner →
        Derives .disjunction (row ++ inner ++ tokens.map Token.kind) condition := by
  induction tokens with
  | nil =>
    constructor
    · intro gap groups row inner read
      exact absurd read (readOperand_nil_ne_ok gap groups condition)
    · intro level groups row inner read opens spelled
      obtain ⟨rfl, rfl⟩ := readOperator_nil_eq_ok read
      cases opens
      simpa using spelled.derives
  | cons token rest ih =>
    obtain ⟨ihOperand, ihOperator⟩ := ih
    -- the token moves from the tokens to be read to those that have been read
    have moved : ∀ (row inner : List TokenKind) (kind : TokenKind), token.kind = kind →
        row ++ inner ++ (token :: rest).map Token.kind =
          row ++ (inner ++ [kind]) ++ rest.map Token.kind := by
      rintro row inner kind rfl
      simp
    constructor
    · intro gap groups row inner read opens spelled
      rcases readOperand_cases read with
        ⟨literal, kind, goesOn⟩ | ⟨kind, goesOn⟩ | ⟨next, kind, known, goesOn⟩
      · rw [moved row inner _ kind]
        exact ihOperator _ _ _ _ goesOn opens (spelled.fill (.literal literal))
      · have inside := ihOperand _ _ _ _ goesOn (.group opens spelled) Gap.spelled_start
        rw [moved row inner _ kind]
        simpa using inside
      · rw [moved row inner _ kind]
        exact ihOperand _ _ _ _ goesOn opens (spelled.notGap known)
    · intro level groups row inner read opens spelled
      rcases readOperator_cases read with
        ⟨kind, goesOn⟩ | ⟨kind, goesOn⟩ | ⟨group, outer, kind, rfl, goesOn⟩
      · rw [moved row inner _ kind]
        exact ihOperand _ _ _ _ goesOn opens (spelled.andGap token.offset)
      · rw [moved row inner _ kind]
        exact ihOperand _ _ _ _ goesOn opens (spelled.orGap token.offset)
      · rw [moved row inner _ kind]
        cases opens with
        | group around before =>
          have closed := ihOperator _ _ _ _ goesOn around (before.close spelled)
          simpa using closed

theorem derives_of_ofTokens {tokens : List Token} {condition : Condition}
    (read : Condition.ofTokens tokens = .ok condition) :
    Derives .disjunction (tokens.map Token.kind) condition :=
  (derives_of_read tokens condition).1 {} [] [] [] read .nil Gap.spelled_start

/-- A row of tokens spells one condition at most. -/
theorem Derives.unique {row : List TokenKind} {condition other : Condition}
    (h : Derives .disjunction row condition) (h' : Derives .disjunction row other) :
    condition = other := by
  -- any tokens of these kinds will do
  have kinds : (row.map fun kind => (⟨kind, 0, 0⟩ : Token)).map Token.kind = row := by
    simp [Function.comp_def]
  rw [← kinds] at h h'
  have read := ofTokens_of_derives h
  rw [ofTokens_of_derives h'] at read
  exact (Except.ok.inj read).symm

/-- Tokens are read as a condition exactly if the grammar derives it from the whole row of
them, and rows that are read have exactly one such condition. -/
theorem Condition.ofTokens_eq_ok_iff :
    (∀ (tokens : List Token) (condition : Condition),
      ofTokens tokens = .ok condition ↔
        Derives .disjunction (tokens.map Token.kind) condition) ∧
      ∀ tokens : List Token, (∃ condition, ofTokens tokens = .ok condition) ↔
        ∃! condition, Derives .disjunction (tokens.map Token.kind) condition := by
  refine ⟨fun tokens condition => ⟨derives_of_ofTokens, ofTokens_of_derives⟩, fun tokens => ?_⟩
  constructor
  · intro accepted
    obtain ⟨condition, read⟩ := accepted
    have derives := derives_of_ofTokens read
    exact ⟨condition, derives, fun other derives' => derives'.unique derives⟩
  · intro derived
    obtain ⟨condition, derives, -⟩ := derived
    exact ⟨condition, ofTokens_of_derives derives⟩

end LiteralLogic
