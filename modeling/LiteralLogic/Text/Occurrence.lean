/-!
# Occurrence of one list in another

`occursIn` searches a text, of characters or of bytes, for a pattern as a
contiguous part.  `occursIn_iff` says that it decides `<:+:`.
-/

namespace LiteralLogic.Text

/-- Whether the pattern is a contiguous part of the text. -/
def occursIn {α : Type} [BEq α] (pattern : List α) : List α → Bool
  | [] => pattern.isEmpty
  | a :: rest => pattern.isPrefixOf (a :: rest) || occursIn pattern rest

theorem occursIn_iff {α : Type} [BEq α] [LawfulBEq α] {pattern text : List α} :
    occursIn pattern text = true ↔ pattern <:+: text := by
  induction text with
  | nil => simp [occursIn]
  | cons a rest ih => simp [occursIn, ih, List.infix_cons_iff]

end LiteralLogic.Text
