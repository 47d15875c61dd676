/-!
# Text as bytes

`utf8` is the encoding of a text in bytes, one character after the other.
-/

namespace LiteralLogic.Text

/-- The UTF-8 bytes of a text. -/
def utf8 (text : List Char) : List UInt8 :=
  text.flatMap String.utf8EncodeChar

theorem utf8_append (a b : List Char) : utf8 (a ++ b) = utf8 a ++ utf8 b := by
  simp [utf8]

end LiteralLogic.Text
