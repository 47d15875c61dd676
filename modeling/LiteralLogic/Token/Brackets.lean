import LiteralLogic.Token

/-!
# Matching parentheses

In a balanced row every parenthesis has a partner.  Two parentheses of a row are
partners if what stands between them is balanced; one without a partner is unmatched.
-/

namespace LiteralLogic

/-- Whether a token is a parenthesis. -/
def TokenKind.isParen : TokenKind → Bool
  | .openParen => true
  | .closeParen => true
  | _ => false

/-- Every parenthesis of the row has its partner in the row. -/
inductive Balanced : List TokenKind → Prop
  | nil : Balanced []
  | other {kind : TokenKind} {row : List TokenKind} :
    kind.isParen = false → Balanced row → Balanced (kind :: row)
  | group {inside behind : List TokenKind} :
    Balanced inside → Balanced behind →
    Balanced (.openParen :: inside ++ .closeParen :: behind)

/-- The parentheses at two positions of the row belong together. -/
def Partners (row : List TokenKind) (opening closing : Nat) : Prop :=
  ∃ before inside behind : List TokenKind,
    row = before ++ .openParen :: inside ++ .closeParen :: behind ∧ Balanced inside ∧
      opening = before.length ∧ closing = before.length + 1 + inside.length

/-- A parenthesis stands at a position of the row, and no other one belongs to it. -/
def Unmatched (row : List TokenKind) (place : Nat) : Prop :=
  (∃ kind, row[place]? = some kind ∧ kind.isParen = true) ∧
    ∀ other, ¬ Partners row place other ∧ ¬ Partners row other place

theorem Balanced.append {row behind : List TokenKind} (h : Balanced row) (hb : Balanced behind) :
    Balanced (row ++ behind) := by
  induction h with
  | nil => exact hb
  | other plain _ ih => exact .other plain ih
  | group inside _ _ ih =>
    rw [List.append_assoc]
    exact .group inside ih

/-- Partners are an opening parenthesis and a closing one behind it. -/
theorem Partners.kinds {row : List TokenKind} {opening closing : Nat}
    (h : Partners row opening closing) :
    row[opening]? = some .openParen ∧ row[closing]? = some .closeParen ∧ opening < closing := by
  obtain ⟨before, inside, behind, rfl, _, rfl, rfl⟩ := h
  refine ⟨by simp, ?_, by omega⟩
  have : before.length + 1 + inside.length = (before ++ .openParen :: inside).length := by
    simp
    omega
  rw [this, List.getElem?_append_right (Nat.le_refl _)]
  simp

end LiteralLogic
