import Std.Data.TreeSet

/-!
# Ascending lists of distinct elements

`ascending` lists the distinct elements of a list in ascending order.  It is
determined by what it holds: `ascending_eq_iff` says that two lists become the
same exactly if they have the same members.
-/

namespace LiteralLogic

/-- The distinct elements of a list in ascending order. -/
def ascending {α : Type} (cmp : α → α → Ordering) (items : List α) : List α :=
  (Std.TreeSet.ofList items cmp).toList

section

variable {α : Type} {cmp : α → α → Ordering} [Std.TransCmp cmp]

theorem pairwise_ascending (items : List α) :
    (ascending cmp items).Pairwise fun a b => cmp a b = .lt :=
  Std.TreeSet.ordered_toList

variable [Std.LawfulEqCmp cmp]

@[simp]
theorem mem_ascending {items : List α} {a : α} : a ∈ ascending cmp items ↔ a ∈ items := by
  classical
  let _ : BEq α := instBEqOfDecidableEq
  have : Std.LawfulBEqCmp cmp := ⟨fun {a b} => by simp⟩
  simp [ascending, Std.TreeSet.mem_toList, Std.TreeSet.mem_ofList]

/-- Two strictly ascending lists with the same members are equal. -/
theorem eq_of_pairwise_lt {xs ys : List α} (hx : xs.Pairwise fun a b => cmp a b = .lt)
    (hy : ys.Pairwise fun a b => cmp a b = .lt) (same : ∀ a, a ∈ xs ↔ a ∈ ys) : xs = ys := by
  have irrefl : ∀ a : α, cmp a a ≠ .lt := by simp [Std.ReflCmp.compare_self]
  have asymm : ∀ {a b : α}, cmp a b = .lt → cmp b a ≠ .lt := by
    intro a b hab hba
    exact Std.OrientedCmp.not_lt_of_lt hab hba
  induction xs generalizing ys with
  | nil =>
    cases ys with
    | nil => rfl
    | cons b ys => exact absurd ((same b).mpr (by simp)) (by simp)
  | cons a xs ih =>
    cases ys with
    | nil => exact absurd ((same a).mp (by simp)) (by simp)
    | cons b ys =>
      rw [List.pairwise_cons] at hx hy
      have head : a = b := by
        rcases List.mem_cons.mp ((same a).mp (by simp)) with h | h
        · exact h
        · rcases List.mem_cons.mp ((same b).mpr (by simp)) with h' | h'
          · exact h'.symm
          · exact absurd (hx.1 b h') (asymm (hy.1 a h))
      subst head
      congr 1
      refine ih hx.2 hy.2 fun c => ⟨fun hc => ?_, fun hc => ?_⟩
      · rcases List.mem_cons.mp ((same c).mp (by simp [hc])) with rfl | h
        · exact absurd (hx.1 c hc) (irrefl c)
        · exact h
      · rcases List.mem_cons.mp ((same c).mpr (by simp [hc])) with rfl | h
        · exact absurd (hy.1 c hc) (irrefl c)
        · exact h

theorem ascending_eq_iff {xs ys : List α} :
    ascending cmp xs = ascending cmp ys ↔ ∀ a, a ∈ xs ↔ a ∈ ys := by
  refine ⟨fun h a => ?_, fun h => ?_⟩
  · have left : a ∈ ascending cmp xs ↔ a ∈ xs := mem_ascending
    rw [← left, h, mem_ascending]
  · exact eq_of_pairwise_lt (pairwise_ascending xs) (pairwise_ascending ys) (by simp [h])

end

end LiteralLogic
