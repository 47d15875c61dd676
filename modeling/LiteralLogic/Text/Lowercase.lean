import LiteralLogic.Text.Lowercase.Table

/-!
# Lowercasing a text

Full Unicode lowercasing.  Almost every capital has one lowercase character; the
dotted capital I has two, and capital sigma has two forms, the final one at the
end of a word: after a cased character and not before one, where characters that
are ignored for case do not count on either side.

`lowercase` works through the text once and remembers whether the last character
that counts was cased; `lowercase_eq` says that the reading from the front gives
the same text as lowering each character between what stands before and after it.
-/

namespace LiteralLogic.Text

/-- The code point that `n` is lowered to by the first of the runs that holds it. -/
def lowerCode : List CaseRun → Nat → Nat
  | [], n => n
  | run :: rest, n =>
    if n < run.first then n
    else if n ≤ run.last then
      if (n - run.first) % run.step = 0 then run.image + (n - run.first) else n
    else lowerCode rest n

/-- The single character that a character is lowered to by itself. -/
def lowerChar (c : Char) : Char :=
  Char.ofNat (lowerCode CaseRun.table c.toNat)

/-- Whether a character belongs to a word with capitals and small letters. -/
def isCased (c : Char) : Bool :=
  CodePoints.cased.has c.toNat

/-- Whether a character is skipped in the search for a cased neighbour. -/
def isCaseIgnorable (c : Char) : Bool :=
  CodePoints.caseIgnorable.has c.toNat

/-- Whether the first character that counts is cased. -/
def startsCased : List Char → Bool
  | [] => false
  | c :: rest => if isCaseIgnorable c then startsCased rest else isCased c

/-- What one character becomes when `afterCased` says whether the last counting
character before it was cased and `rest` stands after it. -/
def lowerAt (afterCased : Bool) (c : Char) (rest : List Char) : List Char :=
  if c = 'Σ' then (if afterCased && !startsCased rest then ['ς'] else ['σ'])
  else if c = 'İ' then ['i', '\u0307']
  else [lowerChar c]

/-- Whether the last counting character is cased once `c` has been passed. -/
def casedAfter (afterCased : Bool) (c : Char) : Bool :=
  if isCaseIgnorable c then afterCased else isCased c

/-- Lowers the rest of a text onto the characters `done`, latest first. -/
def lowercaseOnto (done : List Char) (afterCased : Bool) : List Char → List Char
  | [] => done.reverse
  | c :: rest =>
    lowercaseOnto ((lowerAt afterCased c rest).reverse ++ done) (casedAfter afterCased c) rest

/-- The text in small letters. -/
def lowercase (text : List Char) : List Char :=
  lowercaseOnto [] false text

/-- The rest of a text in small letters, after a text whose last counting
character is cased or not. -/
def lowercaseAfter (afterCased : Bool) : List Char → List Char
  | [] => []
  | c :: rest => lowerAt afterCased c rest ++ lowercaseAfter (casedAfter afterCased c) rest

theorem lowercaseOnto_eq (done : List Char) (afterCased : Bool) (text : List Char) :
    lowercaseOnto done afterCased text = done.reverse ++ lowercaseAfter afterCased text := by
  induction text generalizing done afterCased with
  | nil => simp [lowercaseOnto, lowercaseAfter]
  | cons c rest ih => simp [lowercaseOnto, lowercaseAfter, ih]

theorem lowercase_eq (text : List Char) : lowercase text = lowercaseAfter false text := by
  simp [lowercase, lowercaseOnto_eq]

/-- The text with the capitals A to Z in small letters and all else as it is. -/
def asciiLowercase (text : List Char) : List Char :=
  text.map Char.toLower

theorem asciiLowercase_append (a b : List Char) :
    asciiLowercase (a ++ b) = asciiLowercase a ++ asciiLowercase b := by
  simp [asciiLowercase]

end LiteralLogic.Text
