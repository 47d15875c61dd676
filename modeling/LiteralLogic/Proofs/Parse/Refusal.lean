import LiteralLogic.Proofs.Grammar

/-!
# Rows of tokens that spell no condition

Whatever the reader reports, it has the reason for it behind it or right before it
(`SyntaxError.AtToken`).  The positions it keeps are those of tokens that it has passed:
the opening parenthesis of each group, and the operator that waits for its operand.  Where
nothing waits, nothing has been read in the group yet.  Every step keeps this
(`Gap.Behind`, `Partial.Behind`), together with what the tokens behind the reader spell.
-/

namespace LiteralLogic

/-! ## Operands -/

/-- Whether a token is one that an operand or its NOT begins with. -/
def TokenKind.startsOperand : TokenKind → Bool
  | .literal _ => true
  | .openParen => true
  | .operator .not => true
  | _ => false

/-- All other tokens may stand behind an operand. -/
theorem TokenKind.startsOperand_of_ne {kind : TokenKind} (and : kind ≠ .operator .and)
    (or : kind ≠ .operator .or) (close : kind ≠ .closeParen) : kind.startsOperand = true := by
  cases kind with
  | literal literal => rfl
  | openParen => rfl
  | closeParen => exact absurd rfl close
  | operator operator =>
    cases operator with
    | and => exact absurd rfl and
    | or => exact absurd rfl or
    | not => rfl

/-- The last tokens of a condition are an operand of it. -/
theorem Derives.exists_last_primary {level : GrammarLevel} {row : List TokenKind}
    {condition : Condition} (h : Derives level row condition) :
    ∃ front last operand, row = front ++ last ∧ Derives .primary last operand := by
  induction h with
  | literal literal => exact ⟨[], _, _, rfl, .literal literal⟩
  | group inside => exact ⟨[], _, _, rfl, .group inside⟩
  | primary _ ih => exact ih
  | @not row operand primary => exact ⟨[.operator .not], row, operand, rfl, primary⟩
  | unary _ ih => exact ih
  | @and leftRow _ _ _ _ _ _ ih =>
    rcases ih with ⟨front, last, operand, parts, primary⟩
    refine ⟨leftRow ++ .operator .and :: front, last, operand, ?_, primary⟩
    rw [parts, List.append_assoc, List.cons_append]
  | conjunction _ ih => exact ih
  | @or leftRow _ _ _ _ _ _ ih =>
    rcases ih with ⟨front, last, operand, parts, primary⟩
    refine ⟨leftRow ++ .operator .or :: front, last, operand, ?_, primary⟩
    rw [parts, List.append_assoc, List.cons_append]

/-- What stands among the tokens at the place where they are refused. -/
inductive SyntaxError.AtToken (tokens : List Token) : SyntaxError → Prop
  | unmatchedParen {token : Token} :
    token ∈ tokens → token.kind.isParen = true →
    SyntaxError.AtToken tokens ⟨token.offset, .unmatchedParen⟩
  | emptyGroup {before after : List Token} {opening closing : Token} :
    tokens = before ++ opening :: closing :: after → opening.kind = .openParen →
    closing.kind = .closeParen →
    SyntaxError.AtToken tokens ⟨opening.offset, .emptyGroup⟩
  | missingOperand {token : Token} {operator : Operator} :
    token ∈ tokens → token.kind = .operator operator →
    SyntaxError.AtToken tokens ⟨token.offset, .missingOperand operator⟩
  | noExpression : tokens = [] → SyntaxError.AtToken tokens ⟨1, .malformed⟩
  | secondExpression {before after : List Token} {token : Token} {front row : List TokenKind}
    {operand : Condition} :
    tokens = before ++ token :: after → before.map Token.kind = front ++ row →
    Derives .primary row operand → token.kind.startsOperand = true →
    SyntaxError.AtToken tokens ⟨token.offset, .malformed⟩

/-! ## What the reader keeps -/

/-- The positions of the groups are those of opening parentheses. -/
def Located (done : List Token) (groups : List Group) : Prop :=
  ∀ group ∈ groups, ∃ token ∈ done, token.kind = .openParen ∧ token.offset = group.offset

theorem Located.mono {done further : List Token} {groups : List Group}
    (h : Located done groups) : Located (done ++ further) groups := by
  intro group mem
  rcases h group mem with ⟨token, passed, kind, place⟩
  exact ⟨token, List.mem_append_left _ passed, kind, place⟩

/-- A level waits for the operand of an operator that has been passed, or nothing has been
passed since the group began, or the text. -/
def Gap.Waits (gap : Gap) (groups : List Group) (done : List Token) : Prop :=
  match gap.pending, groups with
  | some (operator, place), _ =>
    ∃ token ∈ done, token.kind = .operator operator ∧ token.offset = place
  | none, [] => done = []
  | none, group :: _ =>
    ∃ before opening, done = before ++ [opening] ∧ opening.kind = .openParen ∧
      opening.offset = group.offset

/-- The tokens spell the levels around the current one and what the current one says. -/
def SpelledBehind (groups : List Group) (current : List TokenKind → Prop) (done : List Token) :
    Prop :=
  ∃ row inner, done.map Token.kind = row ++ inner ∧ Opens groups row ∧ current inner

/-- The reader waits for an operand behind these tokens. -/
structure Gap.Behind (gap : Gap) (groups : List Group) (done : List Token) : Prop where
  located : Located done groups
  waits : gap.Waits groups done
  spelled : SpelledBehind groups gap.Spelled done

/-- The reader has completed an operand behind these tokens. -/
structure Partial.Behind (level : Partial) (groups : List Group) (done : List Token) : Prop where
  located : Located done groups
  spelled : SpelledBehind groups level.Spelled done

theorem SpelledBehind.concat {groups : List Group} {current next : List TokenKind → Prop}
    {done : List Token} {token : Token} {kind : TokenKind}
    (h : SpelledBehind groups current done) (known : token.kind = kind)
    (step : ∀ inner, current inner → next (inner ++ [kind])) :
    SpelledBehind groups next (done ++ [token]) := by
  rcases h with ⟨row, inner, kinds, opens, spelled⟩
  refine ⟨row, inner ++ [kind], ?_, opens, step inner spelled⟩
  rw [List.map_append, kinds, List.append_assoc, List.map_singleton, known]

theorem Gap.behind_start : ({} : Gap).Behind [] [] where
  located := by simp [Located]
  waits := rfl
  spelled := ⟨[], [], rfl, .nil, Gap.spelled_start⟩

section Steps

variable {gap next : Gap} {level : Partial} {groups : List Group} {done : List Token}
  {token : Token}

theorem Gap.Behind.literal (h : gap.Behind groups done) {literal : Literal}
    (kind : token.kind = .literal literal) :
    (gap.fill (.leaf literal)).Behind groups (done ++ [token]) where
  located := h.located.mono
  spelled := h.spelled.concat kind fun _ spelled => spelled.fill (.literal literal)

theorem Gap.Behind.openParen (h : gap.Behind groups done) (kind : token.kind = .openParen) :
    ({} : Gap).Behind (⟨gap, token.offset⟩ :: groups) (done ++ [token]) where
  located := by
    intro group mem
    rcases List.mem_cons.mp mem with rfl | outer
    · exact ⟨token, by simp, kind, rfl⟩
    · exact h.located.mono group outer
  waits := ⟨done, token, rfl, kind, rfl⟩
  spelled := by
    rcases h.spelled with ⟨row, inner, kinds, opens, spelled⟩
    refine ⟨row ++ inner ++ [.openParen], [], ?_, .group opens spelled, Gap.spelled_start⟩
    rw [List.map_append, kinds, List.map_singleton, kind, List.append_nil]

theorem Gap.Behind.not (h : gap.Behind groups done) (kind : token.kind = .operator .not)
    (known : gap.notGap token.offset = some next) :
    next.Behind groups (done ++ [token]) where
  located := h.located.mono
  waits := by
    rw [(Gap.notGap_eq_some known).2]
    exact ⟨token, by simp, kind, rfl⟩
  spelled := h.spelled.concat kind fun _ spelled => spelled.notGap known

theorem Partial.Behind.and (h : level.Behind groups done) (kind : token.kind = .operator .and) :
    (level.andGap token.offset).Behind groups (done ++ [token]) where
  located := h.located.mono
  waits := ⟨token, by simp, kind, rfl⟩
  spelled := h.spelled.concat kind fun _ spelled => spelled.andGap token.offset

theorem Partial.Behind.or (h : level.Behind groups done) (kind : token.kind = .operator .or) :
    (level.orGap token.offset).Behind groups (done ++ [token]) where
  located := h.located.mono
  waits := ⟨token, by simp, kind, rfl⟩
  spelled := h.spelled.concat kind fun _ spelled => spelled.orGap token.offset

theorem Partial.Behind.closeParen {group : Group} (h : level.Behind (group :: groups) done)
    (kind : token.kind = .closeParen) :
    (group.outer.fill level.condition).Behind groups (done ++ [token]) where
  located := by
    intro outer mem
    exact h.located.mono outer (List.mem_cons_of_mem _ mem)
  spelled := by
    rcases h.spelled with ⟨row, inner, kinds, opens, spelled⟩
    cases opens with
    | @group _ _ row before opens around =>
      refine ⟨row, before ++ [.openParen] ++ inner ++ [.closeParen], ?_, opens,
        around.close spelled⟩
      rw [List.map_append, kinds, List.map_singleton, kind]
      simp

/-! ## What is reported -/

/-- What is reported of a level that is not filled is the operator that waits, if one does. -/
theorem Gap.Waits.atToken_unfilled {tokens : List Token} {fault : SyntaxFault} {offset : Nat}
    (waits : gap.Waits groups done) (passed : done ⊆ tokens)
    (idle : gap.pending = none → SyntaxError.AtToken tokens ⟨offset, fault⟩) :
    (gap.unfilled fault offset).AtToken tokens := by
  unfold Gap.unfilled
  split
  · rename_i operator place pending
    unfold Gap.Waits at waits
    rw [pending] at waits
    rcases waits with ⟨token, mem, kind, rfl⟩
    exact .missingOperand (passed mem) kind
  · rename_i pending
    exact idle pending

/-- Where nothing waits in a text, nothing has been passed. -/
theorem Gap.Waits.eq_nil (waits : gap.Waits [] done) (idle : gap.pending = none) : done = [] := by
  unfold Gap.Waits at waits
  rw [idle] at waits
  exact waits

/-- Where nothing waits in a group, its parenthesis has been passed last. -/
theorem Gap.Waits.exists_opening {group : Group} (waits : gap.Waits (group :: groups) done)
    (idle : gap.pending = none) :
    ∃ before opening, done = before ++ [opening] ∧ opening.kind = .openParen ∧
      opening.offset = group.offset := by
  unfold Gap.Waits at waits
  rw [idle] at waits
  exact waits

/-- Behind a completed level stands the operand that completes it. -/
theorem Partial.Behind.exists_last_primary (h : level.Behind groups done) :
    ∃ front row operand, done.map Token.kind = front ++ row ∧ Derives .primary row operand := by
  rcases h.spelled with ⟨row, inner, kinds, _, spelled⟩
  rcases spelled.derives.exists_last_primary with ⟨front, last, operand, rfl, primary⟩
  exact ⟨row ++ front, last, operand, by rw [kinds, List.append_assoc], primary⟩

end Steps

/-- The reader ends with the error if it goes on behind the tokens that it has passed. -/
inductive FailsBehind (done rest : List Token) (error : SyntaxError) : Prop
  | operand {gap : Gap} {groups : List Group} :
    gap.Behind groups done → readOperand gap groups rest = .error error →
    FailsBehind done rest error
  | operator {level : Partial} {groups : List Group} :
    level.Behind groups done → readOperator level groups rest = .error error →
    FailsBehind done rest error

theorem Located.unmatchedParen {done : List Token} {group : Group} {groups : List Group}
    (h : Located done (group :: groups)) :
    SyntaxError.AtToken done ⟨group.offset, .unmatchedParen⟩ := by
  rcases h group (List.mem_cons_self ..) with ⟨token, mem, kind, place⟩
  rw [← place]
  exact .unmatchedParen mem (by rw [kind]; rfl)

theorem FailsBehind.atToken_of_nil {done : List Token} {error : SyntaxError}
    (h : FailsBehind done [] error) : error.AtToken done := by
  cases h with
  | @operand gap groups behind refused =>
    cases groups with
    | cons group groups =>
      cases refused
      exact behind.located.unmatchedParen
    | nil =>
      cases refused
      refine behind.waits.atToken_unfilled (List.Subset.refl done) fun idle => ?_
      exact .noExpression (behind.waits.eq_nil idle)
  | @operator level groups behind refused =>
    cases groups with
    | nil => cases refused
    | cons group groups =>
      cases refused
      exact behind.located.unmatchedParen

/-- Where an operand is missing, a token is refused for what stands there, or passed. -/
theorem Gap.Behind.step {gap : Gap} {groups : List Group} {done rest : List Token}
    {token : Token} {error : SyntaxError} (behind : gap.Behind groups done)
    (refused : readOperand gap groups (token :: rest) = .error error) :
    error.AtToken (done ++ token :: rest) ∨ FailsBehind (done ++ [token]) rest error := by
  have here : token ∈ done ++ token :: rest := by simp
  have passed : done ⊆ done ++ token :: rest := List.subset_append_left _ _
  unfold readOperand at refused
  split at refused
  · rename_i literal kind
    exact .inr (.operator (behind.literal kind) refused)
  · rename_i kind
    split at refused
    · exact .inr (.operand (behind.openParen kind) refused)
    · cases refused
      exact .inl (.unmatchedParen here (by rw [kind]; rfl))
  · rename_i kind
    left
    split at refused
    · cases refused
      exact .unmatchedParen here (by rw [kind]; rfl)
    · rename_i group groups
      cases refused
      refine behind.waits.atToken_unfilled passed fun idle => ?_
      -- nothing stands between the parenthesis of the group and this one
      rcases behind.waits.exists_opening idle with ⟨before, opening, rfl, open_kind, place⟩
      rw [← place]
      exact .emptyGroup (List.append_assoc ..) open_kind kind
  · rename_i kind
    split at refused
    · rename_i next known
      exact .inr (.operand (behind.not kind known) refused)
    · rename_i unknown
      cases refused
      refine .inl (behind.waits.atToken_unfilled passed fun idle => ?_)
      -- a NOT is accepted where nothing waits
      unfold Gap.notGap at unknown
      rw [idle] at unknown
      cases unknown
  · rename_i operator _ kind
    cases refused
    exact .inl (.missingOperand here kind)

/-- Behind an operand, a token is refused if another operand begins with it, or passed. -/
theorem Partial.Behind.step {level : Partial} {groups : List Group} {done rest : List Token}
    {token : Token} {error : SyntaxError} (behind : level.Behind groups done)
    (refused : readOperator level groups (token :: rest) = .error error) :
    error.AtToken (done ++ token :: rest) ∨ FailsBehind (done ++ [token]) rest error := by
  have here : token ∈ done ++ token :: rest := by simp
  unfold readOperator at refused
  split at refused
  · exact .inr (.operand (behind.and ‹_›) refused)
  · exact .inr (.operand (behind.or ‹_›) refused)
  · rename_i kind
    split at refused
    · cases refused
      exact .inl (.unmatchedParen here (by rw [kind]; rfl))
    · exact .inr (.operator (behind.closeParen kind) refused)
  · rename_i and or close
    cases refused
    rcases behind.exists_last_primary with ⟨front, row, operand, kinds, primary⟩
    exact .inl (.secondExpression rfl kinds primary (TokenKind.startsOperand_of_ne and or close))

/-- The reader reports what stands among the tokens. -/
theorem FailsBehind.atToken {done rest : List Token} {error : SyntaxError}
    (h : FailsBehind done rest error) : error.AtToken (done ++ rest) := by
  induction rest generalizing done with
  | nil =>
    rw [List.append_nil]
    exact h.atToken_of_nil
  | cons token rest ih =>
    have step :
        error.AtToken (done ++ token :: rest) ∨ FailsBehind (done ++ [token]) rest error := by
      cases h with
      | operand behind refused => exact behind.step refused
      | operator behind refused => exact behind.step refused
    rcases step with reported | goesOn
    · exact reported
    · rw [List.append_cons]
      exact ih goesOn

theorem atToken_of_ofTokens {tokens : List Token} {error : SyntaxError}
    (refused : Condition.ofTokens tokens = .error error) : error.AtToken tokens :=
  (FailsBehind.operand Gap.behind_start refused).atToken

end LiteralLogic
