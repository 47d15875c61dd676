import LiteralLogic.Folding
import Mathlib.Data.List.Basic

/-!
# Folded texts

Folding a text twice is folding it once.  The letters A to Z are folded one by one.  Full
lowercasing leads to characters that it leaves alone wherever they stand (`IsSmall`): no
image of the table of capitals is a capital itself, be it one of the table or the dotted I,
which has a rule of its own (`hasSmallImages_table`).  So a lowered text has no capital
sigma any more, whose form would depend on what stands around it.
-/

namespace LiteralLogic

/-! ## The table of capitals -/

namespace CaseRun

/-- Whether the runs lower none of the code points from `low` to `high`, or none of every
second one of them, as far as a walk through the runs that stops behind `high` tells. -/
def spare (alternate : Bool) (low high : Nat) : List CaseRun → Bool
  | [] => true
  | run :: rest =>
    bif run.first.ble high then
      (run.last.blt low || (alternate && run.step.beq 2 && ((low + run.first) % 2).beq 1)) &&
        spare alternate low high rest
    else true

/-- The dotted capital I as a run by itself. -/
def dottedI : CaseRun := ⟨0x130, 0x130, 1, 0x69⟩

/-- The last code point to which a run lowers. -/
def lastImage (run : CaseRun) : Nat :=
  run.image + (run.last - run.first)

/-- Whether at most every second code point from the first image of a run on is an image. -/
def alternates (run : CaseRun) : Bool :=
  run.step.beq 2 || run.first.beq run.last

/-- Whether the images of a run are characters that are lowered to themselves. -/
def hasSmallImages (run : CaseRun) : Bool :=
  (run.lastImage.blt 0xD800 || (Nat.blt 0xDFFF run.image && run.lastImage.blt 0x110000)) &&
    spare run.alternates run.image run.lastImage [dottedI] &&
    spare run.alternates run.image run.lastImage table

-- The numbers are compared by `Nat.ble`, so that the kernel is quick to go through all runs.
theorem hasSmallImages_table : table.all hasSmallImages = true := by
  decide +kernel

end CaseRun

namespace Text

theorem lowerCode_of_spare {runs : List CaseRun} {alternate : Bool} {low high n : Nat}
    (spared : CaseRun.spare alternate low high runs = true) (above : low ≤ n) (below : n ≤ high)
    (every : alternate = true → (n - low) % 2 = 0) : lowerCode runs n = n := by
  induction runs with
  | nil => rfl
  | cons run runs ih =>
    unfold lowerCode
    split
    · rfl
    · rename_i notBefore
      have reached : run.first.ble high = true := Nat.ble_eq.mpr (by omega)
      rw [CaseRun.spare, reached, cond_true, Bool.and_eq_true] at spared
      rcases spared with ⟨here, rest⟩
      split
      · rename_i notBehind
        have overlaps : run.last.blt low = false := by
          rw [Bool.eq_false_iff, Ne, Nat.blt_eq]
          omega
        simp only [overlaps, Bool.false_or, Bool.and_eq_true, Nat.beq_eq] at here
        rcases here with ⟨⟨alternates, second⟩, odd⟩
        have even := every alternates
        rw [if_neg]
        rw [second]
        omega
      · exact ih rest

/-- A code point stays as it is, or a run lowers it. -/
theorem lowerCode_cases (runs : List CaseRun) (n : Nat) :
    lowerCode runs n = n ∨
      ∃ run ∈ runs, run.first ≤ n ∧ n ≤ run.last ∧ (n - run.first) % run.step = 0 ∧
        lowerCode runs n = run.image + (n - run.first) := by
  induction runs with
  | nil => exact .inl rfl
  | cons run runs ih =>
    unfold lowerCode
    split
    · exact .inl rfl
    · rename_i notBefore
      split
      · split
        · exact .inr ⟨run, List.mem_cons_self, by omega, ‹_›, ‹_›, rfl⟩
        · exact .inl rfl
      · rcases ih with same | ⟨other, mem, lowered⟩
        · exact .inl same
        · exact .inr ⟨other, List.mem_cons_of_mem _ mem, lowered⟩

/-! ## Small characters -/

/-- Lowering leaves the character as it is, wherever it stands. -/
structure IsSmall (c : Char) : Prop where
  not_sigma : c ≠ 'Σ'
  not_dottedI : c ≠ 'İ'
  lowerChar_eq : lowerChar c = c

theorem isSmall_of_lowerCode {c : Char}
    (dottedI : lowerCode [CaseRun.dottedI] c.toNat = c.toNat)
    (table : lowerCode CaseRun.table c.toNat = c.toNat) : IsSmall c := by
  constructor
  · rintro rfl
    revert table
    decide +kernel
  · rintro rfl
    revert dottedI
    decide
  · rw [lowerChar, table, Char.ofNat_toNat]

theorem isSmall_lowerChar {c : Char} (not_sigma : c ≠ 'Σ') (not_dottedI : c ≠ 'İ') :
    IsSmall (lowerChar c) := by
  rcases lowerCode_cases CaseRun.table c.toNat with same | ⟨run, mem, first, last, place, image⟩
  · have fixed : lowerChar c = c := by rw [lowerChar, same, Char.ofNat_toNat]
    rw [fixed]
    exact ⟨not_sigma, not_dottedI, fixed⟩
  · have small := List.all_eq_true.mp CaseRun.hasSmallImages_table run mem
    simp only [CaseRun.hasSmallImages, Bool.and_eq_true, Bool.or_eq_true, Nat.blt_eq] at small
    rcases small with ⟨⟨range, dottedI⟩, table⟩
    have below : run.image + (c.toNat - run.first) ≤ run.lastImage := by
      unfold CaseRun.lastImage
      omega
    have every : run.alternates = true →
        (run.image + (c.toNat - run.first) - run.image) % 2 = 0 := by
      intro alternates
      rw [CaseRun.alternates, Bool.or_eq_true, Nat.beq_eq, Nat.beq_eq] at alternates
      rcases alternates with second | single
      · rw [second] at place
        omega
      · omega
    have valid : (run.image + (c.toNat - run.first)).isValidChar := by
      rcases range with low | ⟨high, bound⟩
      · exact .inl (by omega)
      · exact .inr ⟨by omega, by omega⟩
    have code : (lowerChar c).toNat = run.image + (c.toNat - run.first) := by
      rw [lowerChar, image, toNat_ofNat valid]
    apply isSmall_of_lowerCode
    · rw [code]
      exact lowerCode_of_spare dottedI (Nat.le_add_right ..) below every
    · rw [code]
      exact lowerCode_of_spare table (Nat.le_add_right ..) below every

theorem isSmall_of_mem_lowerAt {afterCased : Bool} {c d : Char} {rest : List Char}
    (mem : d ∈ lowerAt afterCased c rest) : IsSmall d := by
  unfold lowerAt at mem
  split at mem
  · have forms : d = 'ς' ∨ d = 'σ' := by
      split at mem
      · exact .inl (List.mem_singleton.mp mem)
      · exact .inr (List.mem_singleton.mp mem)
    rcases forms with rfl | rfl
    · exact isSmall_of_lowerCode (by decide) (by decide +kernel)
    · exact isSmall_of_lowerCode (by decide) (by decide +kernel)
  · split at mem
    · rcases List.mem_pair.mp mem with rfl | rfl
      · exact isSmall_of_lowerCode (by decide) (by decide +kernel)
      · exact isSmall_of_lowerCode (by decide) (by decide +kernel)
    · rw [List.mem_singleton.mp mem]
      exact isSmall_lowerChar ‹_› ‹_›

theorem isSmall_of_mem_lowercaseAfter {afterCased : Bool} {text : List Char} {c : Char}
    (mem : c ∈ lowercaseAfter afterCased text) : IsSmall c := by
  induction text generalizing afterCased with
  | nil => cases mem
  | cons first text ih =>
    rcases List.mem_append.mp mem with here | later
    · exact isSmall_of_mem_lowerAt here
    · exact ih later

/-- Lowering changes nothing in a text of small characters. -/
theorem lowercaseAfter_of_isSmall {text : List Char} (small : ∀ c ∈ text, IsSmall c)
    (afterCased : Bool) : lowercaseAfter afterCased text = text := by
  induction text generalizing afterCased with
  | nil => rfl
  | cons c text ih =>
    rcases List.forall_mem_cons.mp small with ⟨first, rest⟩
    rw [lowercaseAfter, ih rest, lowerAt, if_neg first.not_sigma, if_neg first.not_dottedI,
      first.lowerChar_eq, List.singleton_append]

theorem lowercase_lowercase (text : List Char) : lowercase (lowercase text) = lowercase text := by
  rw [lowercase_eq (lowercase text)]
  apply lowercaseAfter_of_isSmall
  intro c mem
  rw [lowercase_eq] at mem
  exact isSmall_of_mem_lowercaseAfter mem

theorem asciiLowercase_asciiLowercase (text : List Char) :
    asciiLowercase (asciiLowercase text) = asciiLowercase text := by
  rw [asciiLowercase, asciiLowercase, List.map_map]
  apply List.map_congr_left
  intro c _
  show c.toLower.toLower = c.toLower
  unfold Char.toLower
  grind

end Text

/-- A folded text is its own folding. -/
theorem Folding.foldChars_foldChars (folding : Folding) (text : List Char) :
    folding.foldChars (folding.foldChars text) = folding.foldChars text := by
  cases folding with
  | unicode => exact Text.lowercase_lowercase text
  | ascii => exact Text.asciiLowercase_asciiLowercase text

end LiteralLogic
