import LiteralLogic.Text.Lowercase

/-!
# Case folding

How a text is brought to small letters before literals that ignore case are
compared with it: by the full Unicode rules, or by the letters A to Z alone.
-/

namespace LiteralLogic

/-- The rules by which text is brought to small letters. -/
inductive Folding where
  | unicode
  | ascii
deriving DecidableEq, Inhabited

/-- The characters of a text in small letters. -/
def Folding.foldChars : Folding → List Char → List Char
  | .unicode => Text.lowercase
  | .ascii => Text.asciiLowercase

/-- A text in small letters. -/
def Folding.fold (folding : Folding) (text : String) : String :=
  String.ofList (folding.foldChars text.toList)

theorem Folding.toList_fold (folding : Folding) (text : String) :
    (folding.fold text).toList = folding.foldChars text.toList := by
  simp [Folding.fold]

end LiteralLogic
