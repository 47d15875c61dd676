import LiteralLogic.Text.CodePoints

/-!
# White space

The Unicode property White_Space, and the text with its white space evened out.
-/

namespace LiteralLogic

/-- Code points with the property White_Space. -/
def CodePoints.whiteSpace : CodePoints := [
  (0x9, 0xD), (0x20, 0x20), (0x85, 0x85), (0xA0, 0xA0), (0x1680, 0x1680), (0x2000, 0x200A),
  (0x2028, 0x2029), (0x202F, 0x202F), (0x205F, 0x205F), (0x3000, 0x3000)]

namespace Text

/-- Whether a character is white space. -/
def isBlank (c : Char) : Bool :=
  CodePoints.whiteSpace.has c.toNat

/-- The text with every white-space character shown as a space; no character is
lost or added, so columns stay where they are. -/
def flattenBlanks (text : List Char) : List Char :=
  text.map fun c => if isBlank c then ' ' else c

end Text

end LiteralLogic
