import LiteralLogic.Escape.Spelling
import LiteralLogic.Token

/-!
# The spellings of tokens

Which rows of characters spell a blank or a token, and which tokens a text is made
of.  A text is a row of pieces without anything between them, so that blanks may be put
in and left out anywhere between two pieces.
-/

namespace LiteralLogic.Token

/-- Characters that spell a token, or a blank where there is none. -/
inductive Spells : List Char → Option TokenKind → Prop
  | blank {c : Char} : isSeparator c = true → Spells [c] none
  | word {word : List Char} {operator : Operator} :
    word.map Char.toUpper = operator.letters → Spells word (some (.operator operator))
  | openParen : Spells ['('] (some .openParen)
  | closeParen : Spells [')'] (some .closeParen)
  | sensitive {body text : List Char} :
    Escape.BodySpells body text →
    Spells ('"' :: body ++ ['"']) (some (.literal ⟨String.ofList text, false⟩))
  | insensitive {body text : List Char} :
    Escape.BodySpells body text →
    Spells ('"' :: body ++ ['"', 'i']) (some (.literal ⟨String.ofList text, true⟩))

/-- The text that goes on at a position is made of these tokens and of blanks. -/
inductive RowSpells : Nat → List Char → List Token → Prop
  | nil {offset : Nat} : RowSpells offset [] []
  | blank {offset : Nat} {piece rest : List Char} {tokens : List Token} :
    Spells piece none → RowSpells (offset + piece.length) rest tokens →
    RowSpells offset (piece ++ rest) tokens
  | token {offset : Nat} {piece rest : List Char} {kind : TokenKind} {tokens : List Token} :
    Spells piece (some kind) → RowSpells (offset + piece.length) rest tokens →
    RowSpells offset (piece ++ rest) (⟨kind, offset, piece.length⟩ :: tokens)

/-- A blank and a token have at least one character. -/
theorem Spells.ne_nil {piece : List Char} {kind : Option TokenKind} (h : Spells piece kind) :
    piece ≠ [] := by
  cases h with
  | @word word operator spelled =>
    rintro rfl
    cases operator <;> simp [Operator.letters] at spelled
  | _ => simp

/-- Rows of pieces may be put one behind the other. -/
theorem RowSpells.append {offset : Nat} {text : List Char} {tokens : List Token}
    (h : RowSpells offset text tokens) {rest : List Char} {further : List Token}
    (hr : RowSpells (offset + text.length) rest further) :
    RowSpells offset (text ++ rest) (tokens ++ further) := by
  induction h with
  | nil => simpa using hr
  | blank spelled _ ih =>
    rw [List.append_assoc]
    exact .blank spelled (ih (by simpa [Nat.add_assoc] using hr))
  | token spelled _ ih =>
    rw [List.append_assoc]
    exact .token spelled (ih (by simpa [Nat.add_assoc] using hr))

end LiteralLogic.Token
