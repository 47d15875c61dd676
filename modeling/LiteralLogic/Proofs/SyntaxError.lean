import LiteralLogic.Proofs.Parse.Refusal
import LiteralLogic.Proofs.Token.Refusal

/-!
# Where a text is refused

A text that is no condition is refused at one of its characters.  If a piece of it cannot
be read, this is the character at fault; if the pieces can be read, it is the first one of
the token at fault.  Only a text without any token is refused at its beginning, whatever
stands there.
-/

namespace LiteralLogic

/-- The characters of the token stand at its place in the text that goes on at a position. -/
def Token.StandsIn (start : Nat) (text : List Char) (token : Token) : Prop :=
  ∃ front piece behind, text = front ++ piece ++ behind ∧
    token.offset = start + front.length ∧ token.length = piece.length ∧
    Token.Spells piece (some token.kind)

theorem Token.StandsIn.prepend {start : Nat} {text : List Char} {token : Token}
    (piece : List Char) (h : token.StandsIn (start + piece.length) text) :
    token.StandsIn start (piece ++ text) := by
  rcases h with ⟨front, letters, behind, parts, place, length, spelled⟩
  refine ⟨piece ++ front, letters, behind, ?_, ?_, length, spelled⟩
  · rw [parts, List.append_assoc, List.append_assoc, List.append_assoc]
  · rw [place, List.length_append, Nat.add_assoc]

/-- The tokens of a text stand in it. -/
theorem Token.RowSpells.standsIn {start : Nat} {text : List Char} {tokens : List Token}
    (h : RowSpells start text tokens) {token : Token} (mem : token ∈ tokens) :
    token.StandsIn start text := by
  induction h with
  | nil => cases mem
  | @blank _ piece _ _ _ _ ih => exact (ih mem).prepend piece
  | @token _ piece rest _ _ spelled _ ih =>
    rcases List.mem_cons.mp mem with rfl | later
    · exact ⟨[], piece, rest, rfl, rfl, rfl, spelled⟩
    · exact (ih later).prepend piece

/-- At this place of the text a piece is at fault, or one of its tokens, each of which stands at
its own place. -/
inductive SyntaxError.PointsInto (text : List Char) (error : SyntaxError) : Prop
  | piece : error.AtChar text → error.PointsInto text
  | token {tokens : List Token} :
    Token.RowSpells 1 text tokens → (∀ token ∈ tokens, token.StandsIn 1 text) →
    error.AtToken tokens → error.PointsInto text

/-! ## Bounds -/

/-- A token begins in its text. -/
theorem Token.StandsIn.offset_bounds {text : List Char} {token : Token}
    (h : token.StandsIn 1 text) : 1 ≤ token.offset ∧ token.offset ≤ text.length := by
  rcases h with ⟨front, piece, behind, rfl, place, _, spelled⟩
  have letters := List.length_pos_of_ne_nil spelled.ne_nil
  rw [place, List.length_append, List.length_append]
  omega

theorem SyntaxError.AtChar.offset_bounds {text : List Char} {error : SyntaxError}
    (h : error.AtChar text) : 1 ≤ error.offset ∧ error.offset ≤ text.length := by
  cases h with
  | unexpectedChar parts | unterminatedLiteral parts | invalidEscape parts =>
    subst parts
    simp

theorem SyntaxError.PointsInto.offset_bounds {text : List Char} {error : SyntaxError}
    (h : error.PointsInto text) (nonempty : text ≠ []) :
    1 ≤ error.offset ∧ error.offset ≤ text.length := by
  cases h with
  | piece char => exact char.offset_bounds
  | token _ stands fault =>
    cases fault with
    | unmatchedParen mem => exact (stands _ mem).offset_bounds
    | emptyGroup parts => exact (stands _ (by simp [parts])).offset_bounds
    | missingOperand mem => exact (stands _ mem).offset_bounds
    | noExpression => exact ⟨Nat.le_refl 1, List.length_pos_of_ne_nil nonempty⟩
    | secondExpression parts => exact (stands _ (by simp [parts])).offset_bounds

/-! ## Conditions -/

/-- Every text that is refused, is refused for what stands in it. -/
theorem Condition.pointsInto_of_parse {text : String} {error : SyntaxError}
    (refused : parse text = .error error) : error.PointsInto text.toList := by
  unfold parse at refused
  split at refused
  · rename_i tokens scanned
    have row := Token.rowSpells_of_scan scanned
    exact .token row (fun _ => row.standsIn) (atToken_of_ofTokens refused)
  · rename_i unread scanned
    cases refused
    exact .piece (Token.atChar_of_scan scanned)

/-- The place at which a text is refused is that of one of its characters, and what is
reported stands there. -/
theorem Condition.parse_error_pointsInto {text : String} {error : SyntaxError}
    (nonempty : text ≠ "") (refused : parse text = .error error) :
    1 ≤ error.offset ∧ error.offset ≤ text.length ∧ error.PointsInto text.toList := by
  have points := pointsInto_of_parse refused
  have bounds := points.offset_bounds (by simpa using nonempty)
  rw [String.length_toList] at bounds
  exact ⟨bounds.1, bounds.2, points⟩

/-- The operator of the group lacks its second operand. -/
theorem Condition.missing_operand_pointsInto :
    parse "\"a\" AND NOT (\"b\" or) OR \"c\"" = .error ⟨18, .missingOperand .or⟩ ∧
      SyntaxError.PointsInto "\"a\" AND NOT (\"b\" or) OR \"c\"".toList
        ⟨18, .missingOperand .or⟩ := by
  have refused : parse "\"a\" AND NOT (\"b\" or) OR \"c\"" = .error ⟨18, .missingOperand .or⟩ := by
    decide +kernel
  exact ⟨refused, (parse_error_pointsInto (by decide) refused).2.2⟩

end LiteralLogic
