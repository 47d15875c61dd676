/-!
# Sets of code points

A Unicode property is a set of code points.  It is written here as ascending,
disjoint runs, both ends included, so that membership is one walk that stops at
the first run beyond the code point.
-/

namespace LiteralLogic

/-- A set of code points: runs `(first, last)` in ascending order. -/
abbrev CodePoints := List (Nat × Nat)

/-- Whether `n` lies in one of the runs. -/
def CodePoints.has : CodePoints → Nat → Bool
  | [], _ => false
  | (first, last) :: rest, n =>
    if n < first then false else n ≤ last || CodePoints.has rest n

/-- A character is found again at its code point. -/
theorem Text.toNat_ofNat {n : Nat} (valid : n.isValidChar) : (Char.ofNat n).toNat = n := by
  rw [Char.ofNat, dif_pos valid]
  rfl

end LiteralLogic
