import LiteralLogic.Proofs.Token

/-!
# Texts made of pieces

A text is read exactly if it is made of pieces, and then as the tokens among them.  The
body of a literal is split off where its pairs end, whatever its escapes mean; each piece
that is read spells its token; so the reader goes from piece to piece to the end of the
text.  Blanks leave no trace but in the offsets.
-/

namespace LiteralLogic.Token

/-! ## Literals -/

/-- A body is split off at the first mark that is not the second character of a pair. -/
theorem exists_body_of_splitBody {text : List Char} {done body behind : List Char}
    {escaped : Bool} (h : splitBody done escaped text = some (body, behind)) :
    ∃ inner, body = done.reverse ++ inner ∧ text = inner ++ '"' :: behind ∧
      Escape.IsBody ((if escaped then ['\\'] else []) ++ inner) := by
  induction text generalizing done escaped with
  | nil => cases h
  | cons c rest ih =>
    rw [splitBody] at h
    split at h
    · rename_i pair
      subst pair
      obtain ⟨inner, rfl, rfl, paired⟩ := ih h
      exact ⟨c :: inner, by simp, rfl, .pair paired⟩
    · rename_i single
      have first : escaped = false := by simpa using single
      subst first
      split at h
      · subst c
        cases h
        exact ⟨[], by simp, rfl, .nil⟩
      · rename_i mark
        obtain ⟨inner, rfl, rfl, paired⟩ := ih h
        refine ⟨c :: inner, by simp, rfl, ?_⟩
        by_cases backslash : c = '\\'
        · subst c
          exact paired
        · simp only [backslash, decide_false, Bool.false_eq_true, if_false,
            List.nil_append] at paired ⊢
          exact .plain mark backslash paired

theorem body_of_splitBody {text body behind : List Char}
    (h : splitBody [] false text = some (body, behind)) :
    text = body ++ '"' :: behind ∧ Escape.IsBody body := by
  obtain ⟨inner, rfl, rfl, paired⟩ := exists_body_of_splitBody h
  exact ⟨rfl, paired⟩

/-! ## Pieces -/

/-- The text begins with so many characters that spell the token or blank. -/
def Begins (text : List Char) (kind : Option TokenKind) (length : Nat) : Prop :=
  ∃ piece behind, text = piece ++ behind ∧ piece.length = length ∧ Spells piece kind

theorem begins_of_readLiteral {offset : Nat} {rest : List Char} {kind : Option TokenKind}
    {length : Nat} (h : Piece.readLiteral offset rest = .ok ⟨kind, length⟩) :
    Begins ('"' :: rest) kind length := by
  unfold Piece.readLiteral at h
  split at h
  · cases h
  rename_i body behind parts
  obtain ⟨rfl, paired⟩ := body_of_splitBody parts
  split at h
  · cases h
  rename_i text decoded
  have spelled := Escape.bodySpells_of_decode paired decoded
  cases h
  by_cases suffix : behind.head? = some 'i'
  · obtain ⟨behind, rfl⟩ := List.head?_eq_some_iff.mp suffix
    exact ⟨'"' :: body ++ ['"', 'i'], behind, by simp, by simp, .insensitive spelled⟩
  · refine ⟨'"' :: body ++ ['"'], behind, by simp, by simp [suffix], ?_⟩
    simpa [suffix] using Spells.sensitive spelled

theorem begins_of_leadingOperator {text : List Char} {operator : Operator}
    (h : leadingOperator text = some operator) :
    Begins text (some (.operator operator)) operator.letters.length := by
  have begins := List.find?_some h
  rw [startsWithWord, decide_eq_true_eq] at begins
  refine ⟨text.take operator.letters.length, text.drop operator.letters.length,
    (List.take_append_drop _ _).symm, ?_, .word begins⟩
  rw [← List.length_map, begins]

/-- What is read as a piece spells it. -/
theorem begins_of_read {offset : Nat} {c : Char} {rest : List Char} {kind : Option TokenKind}
    {length : Nat} (h : Piece.read offset c rest = .ok ⟨kind, length⟩) :
    Begins (c :: rest) kind length := by
  unfold Piece.read at h
  split at h
  · rename_i separator
    cases h
    exact ⟨[c], rest, rfl, rfl, .blank separator⟩
  split at h
  · rename_i operator leading
    cases h
    exact begins_of_leadingOperator leading
  split at h
  · subst c
    exact begins_of_readLiteral h
  split at h
  · subst c
    cases h
    exact ⟨['('], rest, rfl, rfl, .openParen⟩
  split at h
  · subst c
    cases h
    exact ⟨[')'], rest, rfl, rfl, .closeParen⟩
  · cases h

/-! ## Whole texts -/

/-- A text that is read begins with a piece, and goes on behind it. -/
theorem scanFrom_cases {done out : List Token} {offset : Nat} {c : Char} {rest : List Char}
    (h : scanFrom done offset 0 (c :: rest) = .ok out) :
    ∃ piece behind, c :: rest = piece ++ behind ∧
      ((Spells piece none ∧ scanFrom done (offset + piece.length) 0 behind = .ok out) ∨
        ∃ kind, Spells piece (some kind) ∧
          scanFrom (⟨kind, offset, piece.length⟩ :: done) (offset + piece.length) 0 behind =
            .ok out) := by
  -- the characters of the piece behind its first one are skipped
  have skip : ∀ {piece behind : List Char} (done : List Token), c :: rest = piece ++ behind →
      piece ≠ [] → scanFrom done (offset + 1) (piece.length - 1) rest =
        scanFrom done (offset + piece.length) 0 behind := by
    intro piece behind done parts nonempty
    obtain ⟨c', letters, rfl⟩ := List.exists_cons_of_ne_nil nonempty
    have tail : rest = letters ++ behind := (List.cons.inj parts).2
    have place : offset + 1 + letters.length = offset + (letters.length + 1) := by omega
    rw [tail, List.length_cons, Nat.add_one_sub_one, scanFrom_skip, place]
  rw [scanFrom] at h
  split at h
  · cases h
  · rename_i read
    obtain ⟨piece, behind, parts, rfl, spelled⟩ := begins_of_read read
    rw [skip done parts spelled.ne_nil] at h
    exact ⟨piece, behind, parts, .inl ⟨spelled, h⟩⟩
  · rename_i kind _ read
    obtain ⟨piece, behind, parts, rfl, spelled⟩ := begins_of_read read
    rw [skip _ parts spelled.ne_nil] at h
    exact ⟨piece, behind, parts, .inr ⟨kind, spelled, h⟩⟩

/-- The tokens that are read are those of the pieces that the text is made of. -/
theorem rowSpells_of_scanFrom {text : List Char} {done out : List Token} {offset : Nat}
    (h : scanFrom done offset 0 text = .ok out) :
    ∃ tokens, out = done.reverse ++ tokens ∧ RowSpells offset text tokens := by
  induction length : text.length using Nat.strongRecOn generalizing text done offset with
  | ind n ih =>
    subst n
    cases text with
    | nil =>
      cases h
      exact ⟨[], by simp, .nil⟩
    | cons c rest =>
      obtain ⟨piece, behind, parts, step⟩ := scanFrom_cases h
      have shorter : piece ≠ [] → behind.length < (c :: rest).length := by
        intro nonempty
        have := List.length_pos_of_ne_nil nonempty
        rw [parts, List.length_append]
        omega
      rw [parts] at ih shorter ⊢
      rcases step with ⟨spelled, h⟩ | ⟨kind, spelled, h⟩
      · obtain ⟨tokens, rfl, row⟩ := ih behind.length (shorter spelled.ne_nil) h rfl
        exact ⟨tokens, rfl, .blank spelled row⟩
      · obtain ⟨tokens, rfl, row⟩ := ih behind.length (shorter spelled.ne_nil) h rfl
        exact ⟨⟨kind, offset, piece.length⟩ :: tokens, by simp, .token spelled row⟩

theorem rowSpells_of_scan {text : String} {tokens : List Token} (h : scan text = .ok tokens) :
    RowSpells 1 text.toList tokens := by
  obtain ⟨_, rfl, spelled⟩ := rowSpells_of_scanFrom h
  exact spelled

/-- Characters with the token or blank that they spell. -/
structure SpelledPiece where
  letters : List Char
  kind : Option TokenKind
  spelled : Spells letters kind

/-- A row of pieces is the text of tokens of their kinds, wherever it stands. -/
theorem exists_rowSpells (pieces : List SpelledPiece) (offset : Nat) :
    ∃ tokens, RowSpells offset (pieces.flatMap SpelledPiece.letters) tokens ∧
      tokens.map Token.kind = pieces.filterMap SpelledPiece.kind := by
  induction pieces generalizing offset with
  | nil => exact ⟨[], .nil, rfl⟩
  | cons piece pieces ih =>
    obtain ⟨letters, kind, spelled⟩ := piece
    obtain ⟨tokens, row, kinds⟩ := ih (offset + letters.length)
    rw [List.flatMap_cons]
    cases kind with
    | none => exact ⟨tokens, .blank spelled row, kinds⟩
    | some kind =>
      refine ⟨⟨kind, offset, letters.length⟩ :: tokens, .token spelled row, ?_⟩
      rw [List.map_cons, kinds, List.filterMap_cons]

/-- A text is read as tokens exactly if it is made of pieces and these are the tokens among
them, each with its place and its length.  The kinds of the tokens are those of the pieces that
are no blanks, whatever blanks stand between them. -/
theorem scan_eq_ok_iff :
    (∀ (text : String) (tokens : List Token),
      scan text = .ok tokens ↔ RowSpells 1 text.toList tokens) ∧
      ∀ pieces : List SpelledPiece, ∃ tokens,
        scan (String.ofList (pieces.flatMap SpelledPiece.letters)) = .ok tokens ∧
          tokens.map Token.kind = pieces.filterMap SpelledPiece.kind := by
  refine ⟨fun text tokens => ⟨rowSpells_of_scan, scan_of_rowSpells⟩, fun pieces => ?_⟩
  obtain ⟨tokens, row, kinds⟩ := exists_rowSpells pieces 1
  rw [← String.toList_ofList (l := pieces.flatMap SpelledPiece.letters)] at row
  exact ⟨tokens, scan_of_rowSpells row, kinds⟩

end LiteralLogic.Token
