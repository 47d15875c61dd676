import LiteralLogic.Escape
import LiteralLogic.SyntaxError

/-!
# Tokens of a condition text

A condition text is a row of pieces: blanks, the words AND, OR and NOT in any
letter case, parentheses, and quoted literals.  Words need no space around them.
A token is a piece other than a blank, with its place in the text.

`Token.Piece.read` says what a text begins with; `Token.scan` goes through the
whole text and stops at the first character with which no piece begins.
-/

namespace LiteralLogic

/-- What a token is. -/
inductive TokenKind where
  | operator (operator : Operator)
  | openParen
  | closeParen
  | literal (literal : Literal)
deriving DecidableEq

/-- A token with the position of its first character, counted from one, and the
number of its characters. -/
structure Token where
  kind : TokenKind
  offset : Nat
  length : Nat
deriving DecidableEq

namespace Token

/-- The position just behind a token. -/
def stop (token : Token) : Nat :=
  token.offset + token.length

/-- Whether a character separates tokens: space, tab, line feed, form feed or
carriage return. -/
def isSeparator (c : Char) : Bool :=
  c = ' ' ∨ c = '\t' ∨ c = '\n' ∨ c = '\x0c' ∨ c = '\r'

/-- Whether a text begins with an operator's word in any letter case. -/
def startsWithWord (operator : Operator) (text : List Char) : Bool :=
  (text.take operator.letters.length).map Char.toUpper = operator.letters

/-- The operator whose word a text begins with. -/
def leadingOperator (text : List Char) : Option Operator :=
  [Operator.and, .or, .not].find? (startsWithWord · text)

/-- Splits what follows an opening quotation mark into the body of the literal
and the text behind its closing mark.  `body` holds the characters read so far,
latest first; `escaped` says that the last of them is a backslash that begins an
escape, so that a mark would not close the literal. -/
def splitBody (body : List Char) (escaped : Bool) : List Char → Option (List Char × List Char)
  | [] => none
  | c :: rest =>
    if escaped then splitBody (c :: body) false rest
    else if c = '"' then some (body.reverse, rest)
    else splitBody (c :: body) (c = '\\') rest

/-- A piece at the beginning of a text: its token kind, or none for a blank, and
the number of its characters. -/
structure Piece where
  kind : Option TokenKind
  length : Nat
deriving DecidableEq

/-- The quoted literal whose opening mark stands at `offset`, before `rest`. -/
def Piece.readLiteral (offset : Nat) (rest : List Char) : Except SyntaxError Piece :=
  match splitBody [] false rest with
  | none => .error ⟨offset, .unterminatedLiteral⟩
  | some (body, behind) =>
    match Escape.decode body with
    | .error invalid =>
      .error ⟨offset + 1 + invalid.index, .invalidEscape (String.ofList invalid.text)⟩
    | .ok text =>
      let caseInsensitive := behind.head? = some 'i'
      .ok ⟨some (.literal ⟨String.ofList text, caseInsensitive⟩),
        body.length + (if caseInsensitive then 3 else 2)⟩

/-- The piece that `c` at `offset` and the text `rest` behind it begin with. -/
def Piece.read (offset : Nat) (c : Char) (rest : List Char) : Except SyntaxError Piece :=
  if isSeparator c then .ok ⟨none, 1⟩
  else
    match leadingOperator (c :: rest) with
    | some operator => .ok ⟨some (.operator operator), operator.letters.length⟩
    | none =>
      if c = '"' then Piece.readLiteral offset rest
      else if c = '(' then .ok ⟨some .openParen, 1⟩
      else if c = ')' then .ok ⟨some .closeParen, 1⟩
      else .error ⟨offset, .unexpectedChar c⟩

/-- Reads the tokens of the rest of a text, which goes on at `offset`, behind the
tokens `done`, latest first.  The next `skip` characters belong to the piece that
was read last. -/
def scanFrom (done : List Token) (offset skip : Nat) :
    List Char → Except SyntaxError (List Token)
  | [] => .ok done.reverse
  | c :: rest =>
    match skip with
    | skip + 1 => scanFrom done (offset + 1) skip rest
    | 0 =>
      match Piece.read offset c rest with
      | .error error => .error error
      | .ok ⟨none, length⟩ => scanFrom done (offset + 1) (length - 1) rest
      | .ok ⟨some kind, length⟩ =>
        scanFrom (⟨kind, offset, length⟩ :: done) (offset + 1) (length - 1) rest

/-- The tokens of a text, or the first place where no piece begins. -/
def scan (text : String) : Except SyntaxError (List Token) :=
  scanFrom [] 1 0 text.toList

end Token

end LiteralLogic
