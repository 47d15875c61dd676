import LiteralLogic.Proofs.Escape.Pairs
import LiteralLogic.Proofs.Token

/-!
# Escapes in the bodies of literals

The body of a literal is split off pair by pair and then decoded escape by escape, and an
escape may be longer than a pair.  Both agree on where a backslash begins something: while
all escapes stand for characters, each one ends where a pair or a plain character begins, and
the first one that stands for nothing ends the reading.
-/

namespace LiteralLogic.Token

/-- A literal whose body is split off is refused only for an escape that stands for nothing. -/
theorem exists_invalid_of_readLiteral {body : List Char} (paired : Escape.IsBody body)
    {offset : Nat} {behind : List Char} {error : SyntaxError}
    (refused : Piece.readLiteral offset (body ++ '"' :: behind) = .error error) :
    ∃ invalid, Escape.decode body = .error invalid ∧
      error = ⟨offset + 1 + invalid.index, .invalidEscape (String.ofList invalid.text)⟩ := by
  have split := splitBody_of_isBody paired [] behind
  rw [List.reverse_nil, List.nil_append] at split
  rw [Piece.readLiteral, split] at refused
  simp only at refused
  split at refused
  · rename_i invalid undecoded
    cases refused
    exact ⟨invalid, undecoded, rfl⟩
  · cases refused

/-- While the body of a literal is decoded, a backslash is met only where a pair begins, so
that there is a character behind it.  The escape takes in this character at least and no more
than is left of the body, and its number fits into a word of 32 bits at every digit.  A literal
is refused only for an escape that stands for nothing, and what is reported is the body from
the backslash on to the end of the escape. -/
theorem readLiteral_reads_pairs {body : List Char} (paired : Escape.IsBody body) :
    (∀ behind, splitBody [] false (body ++ '"' :: behind) = some (body, behind)) ∧
    (∀ (done : List Char) (index : Nat) (rest : List Char),
      Escape.DecodingReaches (.start body) ⟨done, index, 0, '\\' :: rest⟩ →
      (∃ front c behind, body = front ++ '\\' :: c :: behind ∧ rest = c :: behind ∧
        index = front.length ∧ Escape.IsBody front ∧ Escape.IsBody behind) ∧
      1 ≤ (Escape.read rest).width ∧ (Escape.read rest).width ≤ rest.length ∧
      Escape.readWord rest = some (Escape.read rest)) ∧
    ∀ (offset : Nat) (behind : List Char) (error : SyntaxError),
      Piece.readLiteral offset (body ++ '"' :: behind) = .error error →
      ∃ done index rest,
        Escape.DecodingReaches (.start body) ⟨done, index, 0, '\\' :: rest⟩ ∧
        (Escape.read rest).value = none ∧
        ∃ escape, escape = (body.drop index).take (1 + (Escape.read rest).width) ∧
          escape.length = 1 + (Escape.read rest).width ∧
          error = ⟨offset + 1 + index, .invalidEscape (String.ofList escape)⟩ := by
  refine ⟨splitBody_of_isBody paired [], ?_, ?_⟩
  · intro done index rest reached
    obtain ⟨front, c, behind, parts, rfl, place, before, after⟩ :=
      Escape.exists_pair_of_reaches paired reached
    have width := Escape.width_read c behind
    exact ⟨⟨front, c, behind, parts, rfl, place, before, after⟩, width.1, width.2,
      Escape.readWord_eq_some_read _⟩
  · intro offset behind error refused
    obtain ⟨invalid, undecoded, rfl⟩ := exists_invalid_of_readLiteral paired refused
    obtain ⟨done, rest, reached, unknown, slice, whole⟩ :=
      Escape.exists_slice_of_decode paired undecoded
    exact ⟨done, invalid.index, rest, reached, unknown, invalid.text, slice, whole, rfl⟩

/-- An escape that lacks a digit takes in half of the pair behind it. -/
theorem readLiteral_of_half_a_pair :
    Escape.IsBody ['a', '\\', '"', '\\', 'x', '\\', '\\'] ∧
      Piece.readLiteral 1 ['a', '\\', '"', '\\', 'x', '\\', '\\', '"', 'i'] =
        .error ⟨5, .invalidEscape (String.ofList ['\\', 'x', '\\'])⟩ ∧
      ∃ done index rest,
        Escape.DecodingReaches (.start ['a', '\\', '"', '\\', 'x', '\\', '\\'])
          ⟨done, index, 0, '\\' :: rest⟩ ∧
        (Escape.read rest).value = none := by
  have paired : Escape.IsBody ['a', '\\', '"', '\\', 'x', '\\', '\\'] :=
    .plain (by decide) (by decide) (.pair (.pair (.pair .nil)))
  have refused : Piece.readLiteral 1 ['a', '\\', '"', '\\', 'x', '\\', '\\', '"', 'i'] =
      .error ⟨5, .invalidEscape (String.ofList ['\\', 'x', '\\'])⟩ := by
    rfl
  obtain ⟨done, index, rest, reached, unknown, -⟩ :=
    (readLiteral_reads_pairs paired).2.2 1 ['i'] _ refused
  exact ⟨paired, refused, done, index, rest, reached, unknown⟩

end LiteralLogic.Token
