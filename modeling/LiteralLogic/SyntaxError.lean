import LiteralLogic.Condition
import LiteralLogic.Text.Quoted

/-!
# Why a condition is refused

A text that is no condition is refused at one place for one reason.  Places are
positions of characters, counted from one.
-/

namespace LiteralLogic

/-- What is wrong at the place where a condition is refused. -/
inductive SyntaxFault where
  /-- No token begins with this character. -/
  | unexpectedChar (found : Char)
  /-- The quoted literal that begins here never ends. -/
  | unterminatedLiteral
  /-- A backslash in a literal begins these characters, which stand for nothing. -/
  | invalidEscape (escape : String)
  /-- The parenthesis here has no partner. -/
  | unmatchedParen
  /-- The parenthesis here is closed again at once. -/
  | emptyGroup
  /-- The operator here lacks an operand. -/
  | missingOperand (operator : Operator)
  /-- A second expression begins here, or there is none at all. -/
  | malformed
deriving DecidableEq

/-- The reason for which a condition is refused, and where. -/
structure SyntaxError where
  /-- The position of the offending character, counted from one. -/
  offset : Nat
  fault : SyntaxFault
deriving DecidableEq

/-- The sentence that tells a user what is wrong. -/
def SyntaxError.message (error : SyntaxError) : String :=
  match error.fault with
  | .unexpectedChar found =>
    s!"unexpected character {Text.debugChar found} at position {error.offset}"
  | .unterminatedLiteral =>
    s!"unterminated quoted literal starting at position {error.offset}"
  | .invalidEscape escape =>
    s!"invalid escape sequence {Text.debugText escape} at position {error.offset}"
  | .unmatchedParen => s!"unmatched parenthesis at position {error.offset}"
  | .emptyGroup => s!"empty parenthesis group at position {error.offset}"
  | .missingOperand operator =>
    s!"missing operand for {operator.word} at position {error.offset}"
  | .malformed =>
    s!"expected exactly one expression, found extra input at position {error.offset}"

/-- Why one condition of a set could not be compiled. -/
inductive ConditionError where
  /-- Its text is no condition. -/
  | invalid (error : SyntaxError)
  /-- A negation stands above something other than a literal where a normal form
  is needed. -/
  | notNormalized
deriving DecidableEq

/-- The sentence that tells a user why a condition could not be compiled. -/
def ConditionError.message : ConditionError → String
  | .invalid error => error.message
  | .notNormalized => "negation of a compound expression reached AND-path extraction"

/-- The first condition of a set that could not be compiled. -/
structure CompileError where
  /-- The position of the condition in the set, counted from zero. -/
  index : Nat
  cause : ConditionError
deriving DecidableEq

/-- The sentence that tells a user which condition failed and why. -/
def CompileError.message (error : CompileError) : String :=
  s!"condition {error.index}: {error.cause.message}"

end LiteralLogic
