import LiteralLogic.Proofs.Parse.Refusal

/-!
# Parentheses that are refused

The reader reports a parenthesis for one of two reasons: it opens a group that the tokens
behind it do not close, or it closes a group where none is open, and then the tokens
before it are balanced by themselves.  Neither has a partner in the whole row.  No group is
left open at the end of the tokens, because each was entered only after its end had been
seen ahead; `ClosesAll` carries this through the steps of the reader.
-/

namespace LiteralLogic

/-! ## Partners -/

/-- The parenthesis at a position of the row has a partner. -/
def HasPartner (row : List TokenKind) (place : Nat) : Prop :=
  ∃ other, Partners row place other ∨ Partners row other place

theorem Partners.within {row : List TokenKind} {opening closing : Nat}
    (h : Partners row opening closing) (front back : List TokenKind) :
    Partners (front ++ row ++ back) (front.length + opening) (front.length + closing) := by
  rcases h with ⟨before, inside, behind, rfl, balanced, rfl, rfl⟩
  refine ⟨front ++ before, inside, behind ++ back, by simp, balanced, ?_, ?_⟩
  · rw [List.length_append]
  · rw [List.length_append]
    omega

/-- Partners in a part of a row are partners in the row. -/
theorem HasPartner.of_part {row whole : List TokenKind} {place shifted : Nat}
    (h : HasPartner row place) (front back : List TokenKind) (parts : front ++ row ++ back = whole)
    (moved : front.length + place = shifted) : HasPartner whole shifted := by
  subst parts moved
  rcases h with ⟨other, opens | closes⟩
  · exact ⟨_, .inl (opens.within front back)⟩
  · exact ⟨_, .inr (closes.within front back)⟩

/-- In a balanced row every parenthesis has a partner. -/
theorem Balanced.hasPartner {row : List TokenKind} (h : Balanced row) {place : Nat}
    {kind : TokenKind} (known : row[place]? = some kind) (paren : kind.isParen = true) :
    HasPartner row place := by
  induction h generalizing place with
  | nil => cases known
  | @other first row plain _ ih =>
    cases place with
    | zero =>
      cases known
      rw [plain] at paren
      cases paren
    | succ place => exact (ih known).of_part [first] [] (by simp) (Nat.add_comm ..)
  | @group inside behind balanced _ ihInside ihBehind =>
    cases place with
    | zero => exact ⟨_, .inl ⟨[], inside, behind, rfl, balanced, rfl, rfl⟩⟩
    | succ place =>
      have next : (inside ++ .closeParen :: behind)[place]? = some kind := known
      rcases Nat.lt_trichotomy place inside.length with within | rfl | later
      · rw [List.getElem?_append_left within] at next
        exact (ihInside next).of_part [.openParen] (.closeParen :: behind) (by simp)
          (Nat.add_comm ..)
      · exact ⟨0, .inr ⟨[], inside, behind, rfl, balanced, rfl, Nat.add_comm ..⟩⟩
      · rcases Nat.exists_eq_add_of_lt later with ⟨further, rfl⟩
        have past : inside.length + further + 1 - inside.length = further + 1 := by omega
        rw [List.getElem?_append_right (by omega), past] at next
        refine (ihBehind next).of_part (.openParen :: inside ++ [.closeParen]) [] (by simp) ?_
        simp only [List.length_append, List.length_cons, List.length_nil]
        omega

theorem Balanced.not_unmatched {row : List TokenKind} (h : Balanced row) (place : Nat) :
    ¬Unmatched row place := by
  intro unmatched
  rcases unmatched with ⟨⟨kind, known, paren⟩, alone⟩
  rcases h.hasPartner known paren with ⟨other, opens | closes⟩
  · exact (alone other).1 opens
  · exact (alone other).2 closes

/-! ## What the tokens close -/

/-- Balanced tokens close none of the parentheses that are open before them. -/
theorem closes_eq_false_of_balanced {tokens : List Token}
    (balanced : Balanced (tokens.map Token.kind)) (depth : Nat) : closes depth tokens = false := by
  have passed := closes_append_of_balanced balanced rfl depth []
  rw [List.append_nil] at passed
  rw [passed, closes]

section Here

variable {done rest : List Token} {token : Token}

/-- The tokens behind a parenthesis that has a partner there close it. -/
theorem Partners.closes_behind {closing : Nat}
    (h : Partners ((done ++ token :: rest).map Token.kind) done.length closing) :
    closes 0 rest = true := by
  rcases h with ⟨before, inside, behind, parts, balanced, place, -⟩
  rw [List.map_append, List.append_assoc] at parts
  rcases List.append_inj parts (by rw [List.length_map, place]) with ⟨-, here⟩
  have kinds : rest.map Token.kind = inside ++ .closeParen :: behind := (List.cons.inj here).2
  rcases exists_split kinds with ⟨within, partner, after, rfl, rfl, kind, -⟩
  rw [closes_append_of_balanced balanced rfl]
  simp only [closes, kind]

theorem kind_here :
    ((done ++ token :: rest).map Token.kind)[done.length]? = some token.kind := by
  simp

theorem unmatched_of_not_closes (kind : token.kind = .openParen)
    (neverClosed : closes 0 rest = false) :
    Unmatched ((done ++ token :: rest).map Token.kind) done.length := by
  refine ⟨⟨token.kind, kind_here, by rw [kind]; rfl⟩, fun other => ⟨?_, ?_⟩⟩
  · intro opens
    rw [opens.closes_behind] at neverClosed
    cases neverClosed
  · intro closes
    have known := closes.kinds.2.1
    rw [kind_here, kind] at known
    cases known

theorem unmatched_of_balanced (kind : token.kind = .closeParen)
    (balanced : Balanced (done.map Token.kind)) :
    Unmatched ((done ++ token :: rest).map Token.kind) done.length := by
  refine ⟨⟨token.kind, kind_here, by rw [kind]; rfl⟩, fun other => ⟨?_, ?_⟩⟩
  · intro opens
    have known := opens.kinds.1
    rw [kind_here, kind] at known
    cases known
  · intro closes
    rcases closes with ⟨before, inside, behind, parts, balancedInside, -, place⟩
    have length : (done.map Token.kind).length = (before ++ .openParen :: inside).length := by
      rw [List.length_map, place, List.length_append, List.length_cons]
      omega
    rw [List.map_append] at parts
    rcases List.append_inj parts length with ⟨kinds, -⟩
    rcases exists_split kinds with ⟨front, opening, within, rfl, rfl, open_kind, rfl⟩
    -- the opening parenthesis has its partner before this one, so not behind what is balanced
    rcases balanced.hasPartner kind_here (by rw [open_kind]; rfl) with ⟨_, opens | closes⟩
    · have closed := opens.closes_behind
      rw [closes_eq_false_of_balanced balancedInside] at closed
      cases closed
    · have known := closes.kinds.2.1
      rw [kind_here, open_kind] at known
      cases known

end Here

/-! ## What the reader keeps -/

theorem Leads.balanced {level : GrammarLevel} {operator : Operator} {entry : Option Condition}
    {row : List TokenKind} (h : Leads level operator entry row) : Balanced row := by
  cases h with
  | start => exact .nil
  | behind derives => exact derives.balanced.append (.other rfl .nil)

theorem Gap.balanced_sign (gap : Gap) : Balanced gap.sign := by
  unfold Gap.sign
  split
  · exact .other rfl .nil
  · exact .nil

theorem Gap.Spelled.balanced {gap : Gap} {row : List TokenKind} (h : gap.Spelled row) :
    Balanced row := by
  cases h with
  | parts disjuncts conjuncts =>
    exact (disjuncts.balanced.append conjuncts.balanced).append gap.balanced_sign

/-- Outside all groups the reader has balanced tokens behind it. -/
theorem SpelledBehind.balanced {current : List TokenKind → Prop} {done : List Token}
    (h : SpelledBehind [] current done) (each : ∀ row, current row → Balanced row) :
    Balanced (done.map Token.kind) := by
  rcases h with ⟨row, inner, kinds, opens, spelled⟩
  cases opens
  rw [kinds]
  exact each inner spelled

/-- The tokens close all groups that are being read before them. -/
def ClosesAll (groups : List Group) (tokens : List Token) : Prop :=
  ∀ depth < groups.length, closes depth tokens = true

section Steps

variable {group : Group} {groups : List Group} {token : Token} {rest : List Token}

theorem ClosesAll.eq_nil (h : ClosesAll groups []) : groups = [] := by
  cases groups with
  | nil => rfl
  | cons group groups => cases h 0 (Nat.succ_pos _)

theorem ClosesAll.plain (h : ClosesAll groups (token :: rest))
    (plain : token.kind.isParen = false) : ClosesAll groups rest := by
  intro depth inside
  rw [← closes_of_isParen_eq_false plain]
  exact h depth inside

theorem ClosesAll.openParen (h : ClosesAll groups (token :: rest))
    (kind : token.kind = .openParen) (ahead : closes 0 rest = true) :
    ClosesAll (group :: groups) rest := by
  intro depth inside
  cases depth with
  | zero => exact ahead
  | succ depth =>
    have outer := h depth (Nat.lt_of_succ_lt_succ inside)
    simp only [closes, kind] at outer
    exact outer

theorem ClosesAll.closeParen (h : ClosesAll (group :: groups) (token :: rest))
    (kind : token.kind = .closeParen) : ClosesAll groups rest := by
  intro depth inside
  have outer := h (depth + 1) (Nat.succ_lt_succ inside)
  simp only [closes, kind] at outer
  exact outer

end Steps

/-! ## What is reported -/

/-- A token at this position in the text is a parenthesis without a partner. -/
def UnmatchedAt (tokens : List Token) (offset : Nat) : Prop :=
  ∃ (place : Nat) (token : Token), tokens[place]? = some token ∧ token.offset = offset ∧
    Unmatched (tokens.map Token.kind) place

theorem UnmatchedAt.here {done rest : List Token} {token : Token}
    (h : Unmatched ((done ++ token :: rest).map Token.kind) done.length) :
    UnmatchedAt (done ++ token :: rest) token.offset :=
  ⟨done.length, token, by simp, rfl, h⟩

/-- The reader reports a parenthesis if it goes on behind the tokens that it has passed. -/
inductive RefusesParen (done rest : List Token) (offset : Nat) : Prop
  | operand {gap : Gap} {groups : List Group} :
    gap.Behind groups done → ClosesAll groups rest →
    readOperand gap groups rest = .error ⟨offset, .unmatchedParen⟩ →
    RefusesParen done rest offset
  | operator {level : Partial} {groups : List Group} :
    level.Behind groups done → ClosesAll groups rest →
    readOperator level groups rest = .error ⟨offset, .unmatchedParen⟩ →
    RefusesParen done rest offset

/-- A level that is not filled is never refused for a parenthesis. -/
theorem Gap.unfilled_ne (gap : Gap) {fault : SyntaxFault} (other : fault ≠ .unmatchedParen)
    (place offset : Nat) : gap.unfilled fault place ≠ ⟨offset, .unmatchedParen⟩ := by
  unfold Gap.unfilled
  intro same
  split at same
  · cases same
  · exact other (SyntaxError.mk.inj same).2

/-- All groups have been left at the end of the tokens, and nothing is open there. -/
theorem not_refusesParen_nil (done : List Token) (offset : Nat) :
    ¬RefusesParen done [] offset := by
  intro refuses
  cases refuses with
  | operand _ closed refused =>
    cases closed.eq_nil
    exact Gap.unfilled_ne _ (by decide) _ _ (Except.error.inj refused)
  | operator _ closed refused =>
    cases closed.eq_nil
    cases refused

theorem Gap.Behind.paren_step {gap : Gap} {groups : List Group} {done rest : List Token}
    {token : Token} {offset : Nat} (behind : gap.Behind groups done)
    (closed : ClosesAll groups (token :: rest))
    (refused : readOperand gap groups (token :: rest) = .error ⟨offset, .unmatchedParen⟩) :
    UnmatchedAt (done ++ token :: rest) offset ∨ RefusesParen (done ++ [token]) rest offset := by
  unfold readOperand at refused
  split at refused
  · rename_i literal kind
    exact .inr (.operator (behind.literal kind) (closed.plain (by rw [kind]; rfl)) refused)
  · rename_i kind
    split at refused
    · rename_i ahead
      exact .inr (.operand (behind.openParen kind) (closed.openParen kind ahead) refused)
    · rename_i open_end
      cases refused
      exact .inl (.here (unmatched_of_not_closes kind (Bool.eq_false_iff.mpr open_end)))
  · rename_i kind
    split at refused
    · cases refused
      have balanced := behind.spelled.balanced fun _ spelled => spelled.balanced
      exact .inl (.here (unmatched_of_balanced kind balanced))
    · exact absurd (Except.error.inj refused) (Gap.unfilled_ne _ (by decide) _ _)
  · rename_i kind
    split at refused
    · rename_i next known
      exact .inr (.operand (behind.not kind known) (closed.plain (by rw [kind]; rfl)) refused)
    · exact absurd (Except.error.inj refused) (Gap.unfilled_ne _ (by decide) _ _)
  · cases refused

theorem Partial.Behind.paren_step {level : Partial} {groups : List Group}
    {done rest : List Token} {token : Token} {offset : Nat} (behind : level.Behind groups done)
    (closed : ClosesAll groups (token :: rest))
    (refused : readOperator level groups (token :: rest) = .error ⟨offset, .unmatchedParen⟩) :
    UnmatchedAt (done ++ token :: rest) offset ∨ RefusesParen (done ++ [token]) rest offset := by
  unfold readOperator at refused
  split at refused
  · rename_i kind
    exact .inr (.operand (behind.and kind) (closed.plain (by rw [kind]; rfl)) refused)
  · rename_i kind
    exact .inr (.operand (behind.or kind) (closed.plain (by rw [kind]; rfl)) refused)
  · rename_i kind
    split at refused
    · cases refused
      have balanced := behind.spelled.balanced fun _ spelled => spelled.derives.balanced
      exact .inl (.here (unmatched_of_balanced kind balanced))
    · exact .inr (.operator (behind.closeParen kind) (closed.closeParen kind) refused)
  · cases refused

/-- The parenthesis that the reader reports has no partner in the whole row. -/
theorem RefusesParen.unmatchedAt {done rest : List Token} {offset : Nat}
    (h : RefusesParen done rest offset) : UnmatchedAt (done ++ rest) offset := by
  induction rest generalizing done with
  | nil => exact absurd h (not_refusesParen_nil done offset)
  | cons token rest ih =>
    have step : UnmatchedAt (done ++ token :: rest) offset ∨
        RefusesParen (done ++ [token]) rest offset := by
      cases h with
      | operand behind closed refused => exact behind.paren_step closed refused
      | operator behind closed refused => exact behind.paren_step closed refused
    rcases step with reported | goesOn
    · exact reported
    · rw [List.append_cons]
      exact ih goesOn

namespace Condition

theorem unmatchedAt_of_ofTokens {tokens : List Token} {offset : Nat}
    (refused : ofTokens tokens = .error ⟨offset, .unmatchedParen⟩) :
    UnmatchedAt tokens offset := by
  have reader : RefusesParen [] tokens offset :=
    .operand Gap.behind_start (fun _ inside => absurd inside (Nat.not_lt_zero _)) refused
  exact reader.unmatchedAt

/-- A parenthesis that is reported has no partner in the whole row of tokens.  So a row in
which every parenthesis has its partner is never refused for a parenthesis, and a row that is
not balanced is never read. -/
theorem ofTokens_unmatchedParen (tokens : List Token) :
    (∀ offset, ofTokens tokens = .error ⟨offset, .unmatchedParen⟩ →
      ∃ (place : Nat) (token : Token), tokens[place]? = some token ∧ token.offset = offset ∧
        Unmatched (tokens.map Token.kind) place) ∧
    (Balanced (tokens.map Token.kind) →
      ∀ offset, ofTokens tokens ≠ .error ⟨offset, .unmatchedParen⟩) ∧
    (¬Balanced (tokens.map Token.kind) → ∀ condition, ofTokens tokens ≠ .ok condition) := by
  refine ⟨fun offset => unmatchedAt_of_ofTokens, ?_, ?_⟩
  · intro balanced offset refused
    rcases unmatchedAt_of_ofTokens refused with ⟨place, -, -, -, unmatched⟩
    exact balanced.not_unmatched place unmatched
  · intro unbalanced condition read
    exact unbalanced (derives_of_ofTokens read).balanced

/-- A group that is closed, and one that is not. -/
theorem unmatchedParen_of_open_group :
    ofTokens [⟨.openParen, 1, 1⟩, ⟨.literal ⟨"a", false⟩, 2, 3⟩, ⟨.closeParen, 5, 1⟩,
        ⟨.operator .or, 7, 2⟩, ⟨.openParen, 10, 1⟩, ⟨.literal ⟨"b", false⟩, 11, 3⟩] =
      .error ⟨10, .unmatchedParen⟩ ∧
    ∃ place : Nat, Unmatched [.openParen, .literal ⟨"a", false⟩, .closeParen, .operator .or,
      .openParen, .literal ⟨"b", false⟩] place := by
  have refused : ofTokens [⟨.openParen, 1, 1⟩, ⟨.literal ⟨"a", false⟩, 2, 3⟩,
      ⟨.closeParen, 5, 1⟩, ⟨.operator .or, 7, 2⟩, ⟨.openParen, 10, 1⟩,
      ⟨.literal ⟨"b", false⟩, 11, 3⟩] = .error ⟨10, .unmatchedParen⟩ := rfl
  rcases (ofTokens_unmatchedParen _).1 10 refused with ⟨place, -, -, -, unmatched⟩
  exact ⟨refused, place, unmatched⟩

end Condition

end LiteralLogic
