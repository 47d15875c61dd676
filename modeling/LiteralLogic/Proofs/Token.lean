import LiteralLogic.Proofs.Escape.Bodies
import LiteralLogic.Token.Spelling

/-!
# Reading tokens

A text that is made of pieces is read piece by piece.  What has to be excluded is that a
piece goes on into the next one: words are told apart by their first letters, the body
of a literal ends at its own mark, and no piece begins with the letter that could be
taken for the suffix of a literal.
-/

namespace LiteralLogic.Token

/-! ## Literals -/

/-- A body is split off at the mark behind it. -/
theorem splitBody_of_isBody {body : List Char} (paired : Escape.IsBody body)
    (done behind : List Char) :
    splitBody done false (body ++ '"' :: behind) = some (done.reverse ++ body, behind) := by
  induction paired generalizing done with
  | nil => simp [splitBody]
  | @plain c body mark backslash _ ih =>
    have step : splitBody done false (c :: (body ++ '"' :: behind)) =
        splitBody (c :: done) false (body ++ '"' :: behind) := by
      simp [splitBody, mark, backslash]
    rw [List.cons_append, step, ih]
    simp
  | @pair c body _ ih =>
    have step : splitBody done false ('\\' :: c :: (body ++ '"' :: behind)) =
        splitBody (c :: '\\' :: done) false (body ++ '"' :: behind) := rfl
    rw [List.cons_append, List.cons_append, step, ih]
    simp

theorem readLiteral_of_spells {body text : List Char} (h : Escape.BodySpells body text)
    (offset : Nat) (behind : List Char) :
    Piece.readLiteral offset (body ++ '"' :: behind) =
      .ok ⟨some (.literal ⟨String.ofList text, decide (behind.head? = some 'i')⟩),
        body.length + (if behind.head? = some 'i' then 3 else 2)⟩ := by
  have split := splitBody_of_isBody h.isBody [] behind
  rw [List.reverse_nil, List.nil_append] at split
  simp only [Piece.readLiteral, split, Escape.decode_of_spells h]

/-! ## Words -/

theorem head_of_startsWithWord {operator : Operator} {c : Char} {rest : List Char}
    (h : startsWithWord operator (c :: rest) = true) :
    operator.letters.head? = some c.toUpper := by
  rw [startsWithWord, decide_eq_true_eq] at h
  rw [← h]
  cases operator <;> rfl

theorem startsWithWord_of_spells {word : List Char} {operator : Operator}
    (spelled : word.map Char.toUpper = operator.letters) (rest : List Char) :
    startsWithWord operator (word ++ rest) = true := by
  have length : word.length = operator.letters.length := by
    rw [← spelled, List.length_map]
  rw [startsWithWord, ← length, List.take_left, spelled, decide_eq_true rfl]

/-- No two words begin with the same letter. -/
theorem operator_eq_of_head {operator operator' : Operator}
    (h : operator.letters.head? = operator'.letters.head?) : operator = operator' := by
  revert h
  cases operator <;> cases operator' <;> decide

theorem leadingOperator_of_spells {word : List Char} {operator : Operator}
    (spelled : word.map Char.toUpper = operator.letters) (rest : List Char) :
    leadingOperator (word ++ rest) = some operator := by
  have begins := startsWithWord_of_spells spelled rest
  have ne : word ≠ [] := (Spells.word spelled).ne_nil
  obtain ⟨c, letters, rfl⟩ := List.exists_cons_of_ne_nil ne
  have unique : ∀ operator', startsWithWord operator' (c :: letters ++ rest) =
      decide (operator' = operator) := by
    intro operator'
    by_cases same : operator' = operator
    · rw [same, begins, decide_eq_true rfl]
    · rw [decide_eq_false same]
      refine Bool.eq_false_iff.mpr fun begins' => same ?_
      exact operator_eq_of_head
        ((head_of_startsWithWord begins').trans (head_of_startsWithWord begins).symm)
  rw [leadingOperator]
  simp only [unique]
  cases operator <;> rfl

theorem leadingOperator_eq_none {c : Char}
    (h : ∀ operator : Operator, operator.letters.head? ≠ some c.toUpper) (rest : List Char) :
    leadingOperator (c :: rest) = none := by
  rw [leadingOperator, List.find?_eq_none]
  intro operator _ begins
  exact h operator (head_of_startsWithWord begins)

theorem isSeparator_of_letter {operator : Operator} {c : Char}
    (h : operator.letters.head? = some c.toUpper) : isSeparator c = false := by
  refine Bool.eq_false_iff.mpr fun separator => ?_
  simp only [isSeparator, decide_eq_true_eq] at separator
  revert h
  rcases separator with rfl | rfl | rfl | rfl | rfl <;> cases operator <;> decide

/-! ## Pieces -/

/-- No piece begins with the suffix of a literal. -/
theorem Spells.head_ne {piece : List Char} {kind : Option TokenKind} (h : Spells piece kind) :
    piece.head? ≠ some 'i' := by
  cases h with
  | blank separator =>
    rintro same
    cases same
    cases separator
  | @word word operator spelled =>
    rintro same
    have upper := congrArg List.head? spelled
    rw [List.head?_map, same] at upper
    revert upper
    cases operator <;> decide
  | _ => simp

theorem RowSpells.head_ne {offset : Nat} {text : List Char} {tokens : List Token}
    (h : RowSpells offset text tokens) : text.head? ≠ some 'i' := by
  cases h with
  | nil => simp
  | blank spelled | token spelled =>
    rw [List.head?_append_of_ne_nil _ spelled.ne_nil]
    exact spelled.head_ne

theorem Piece.read_mark (offset : Nat) (rest : List Char) :
    Piece.read offset '"' rest = Piece.readLiteral offset rest := by
  rw [Piece.read, leadingOperator_eq_none (by intro operator; cases operator <;> decide)]
  rfl

/-- A piece is read as what it spells. -/
theorem Piece.read_of_spells {piece : List Char} {kind : Option TokenKind}
    (h : Spells piece kind) (offset : Nat) {c : Char} {letters rest : List Char}
    (parts : piece = c :: letters) (behind : rest.head? ≠ some 'i') :
    Piece.read offset c (letters ++ rest) = .ok ⟨kind, piece.length⟩ := by
  cases h with
  | blank separator =>
    cases parts
    simp [Piece.read, separator]
  | @word _ operator spelled =>
    have leading := leadingOperator_of_spells spelled rest
    have first := startsWithWord_of_spells spelled rest
    have length : piece.length = operator.letters.length := by
      rw [← spelled, List.length_map]
    rw [parts, List.cons_append] at leading first
    rw [Piece.read, isSeparator_of_letter (head_of_startsWithWord first), leading, length]
    rfl
  | openParen | closeParen =>
    cases parts
    rw [Piece.read, leadingOperator_eq_none (by intro operator; cases operator <;> decide)]
    rfl
  | @sensitive body text spelled =>
    obtain ⟨rfl, tail⟩ := List.cons.inj parts
    have literal := readLiteral_of_spells spelled offset rest
    have whole : letters ++ rest = body ++ '"' :: rest := by
      rw [← tail]
      exact List.append_assoc _ _ _
    rw [Piece.read_mark, whole, literal]
    simp [behind]
  | @insensitive body text spelled =>
    obtain ⟨rfl, tail⟩ := List.cons.inj parts
    have literal := readLiteral_of_spells spelled offset ('i' :: rest)
    have whole : letters ++ rest = body ++ '"' :: 'i' :: rest := by
      rw [← tail]
      exact List.append_assoc _ _ _
    rw [Piece.read_mark, whole, literal]
    simp

theorem scanFrom_skip (done : List Token) (offset : Nat) (skipped rest : List Char) :
    scanFrom done offset skipped.length (skipped ++ rest) =
      scanFrom done (offset + skipped.length) 0 rest := by
  induction skipped generalizing offset with
  | nil => rfl
  | cons c skipped ih =>
    rw [List.length_cons, List.cons_append, scanFrom, ih]
    congr 1
    omega

/-- A row of pieces is read as its tokens. -/
theorem scanFrom_of_rowSpells {offset : Nat} {text : List Char} {tokens : List Token}
    (h : RowSpells offset text tokens) (done : List Token) :
    scanFrom done offset 0 text = .ok (done.reverse ++ tokens) := by
  induction h generalizing done with
  | nil => simp [scanFrom]
  | @blank offset piece rest tokens spelled row ih =>
    obtain ⟨c, letters, parts⟩ := List.exists_cons_of_ne_nil spelled.ne_nil
    have first := Piece.read_of_spells spelled offset parts row.head_ne
    subst parts
    rw [List.cons_append, scanFrom]
    simp only [first, List.length_cons, Nat.add_one_sub_one]
    rw [scanFrom_skip, ← ih, List.length_cons]
    congr 1
    omega
  | @token offset piece rest kind tokens spelled row ih =>
    obtain ⟨c, letters, parts⟩ := List.exists_cons_of_ne_nil spelled.ne_nil
    have first := Piece.read_of_spells spelled offset parts row.head_ne
    subst parts
    rw [List.cons_append, scanFrom]
    simp only [first, List.length_cons, Nat.add_one_sub_one]
    rw [scanFrom_skip]
    have place : offset + 1 + letters.length = offset + (c :: letters).length := by
      rw [List.length_cons]
      omega
    rw [place, ih, List.reverse_cons, List.append_assoc]
    rfl

theorem scan_of_rowSpells {text : String} {tokens : List Token}
    (h : RowSpells 1 text.toList tokens) : scan text = .ok tokens :=
  scanFrom_of_rowSpells h []

end LiteralLogic.Token
