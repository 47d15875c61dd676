import LiteralLogic.Text.Verbatim.Table

/-!
# Characters inside quotes

Quoted text shows a character as itself where that can be read, and otherwise
after a backslash: by a short letter, as the mark itself, or by its number in
braces.  `quoted` is the writing shared by error messages and by the text of a
condition; `debugText` and `debugChar` are the messages' own form, in which NUL
has a short letter too.
-/

namespace LiteralLogic.Text

/-- Whether a character shows by itself, so that it may stand for itself inside
quotes. -/
def isVerbatim (c : Char) : Bool :=
  !CodePoints.nonGraphic.has c.toNat && !CodePoints.graphemeExtend.has c.toNat &&
    !CodePoints.defaultIgnorable.has c.toNat

/-- A character by its number: a backslash, `u`, and the hexadecimal digits in
braces. -/
def numbered (c : Char) : List Char :=
  ['\\', 'u', '{'] ++ Nat.toDigits 16 c.toNat ++ ['}']

/-- A character between quotation marks `mark`, where the characters that satisfy
`verbatim` may stand for themselves. -/
def quoted (verbatim : Char → Bool) (mark c : Char) : List Char :=
  if c = '\t' then ['\\', 't']
  else if c = '\r' then ['\\', 'r']
  else if c = '\n' then ['\\', 'n']
  else if c = '\\' ∨ c = mark then ['\\', c]
  else if verbatim c then [c]
  else numbered c

/-- A character between marks as an error message shows it. -/
def debugQuoted (mark c : Char) : List Char :=
  if c = '\x00' then ['\\', '0'] else quoted isVerbatim mark c

/-- A character as an error message shows it, in single quotes. -/
def debugChar (c : Char) : String :=
  String.ofList ('\'' :: debugQuoted '\'' c ++ ['\''])

/-- A text as an error message shows it, in double quotes. -/
def debugText (text : String) : String :=
  String.ofList ('"' :: text.toList.flatMap (debugQuoted '"') ++ ['"'])

end LiteralLogic.Text
