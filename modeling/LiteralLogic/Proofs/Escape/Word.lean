import LiteralLogic.Escape.Word
import LiteralLogic.Proofs.Escape
import Mathlib.Algebra.Group.Nat.Defs
import Mathlib.Data.List.TakeWhile

/-!
# The numbers of escapes fit into words

A number of as many as eight hexadecimal digits is less than 16⁸, which is what a word of 32
bits can hold; a braced one ends after six digits and an octal one after three.  So reading
an escape in words comes to the same as reading it in natural numbers
(`readWord_eq_some_read`), whatever characters it begins with.
-/

namespace LiteralLogic.Escape

/-! ## Digits -/

theorem lt_of_hexDigit {c : Char} {d : Nat} (known : hexDigit c = some d) : d < 16 := by
  unfold hexDigit at known
  split at known
  · rename_i range
    have last : c.toNat ≤ 57 := range.2
    cases known
    show c.toNat - 48 < 16
    omega
  split at known
  · rename_i range
    have last : c.toNat ≤ 102 := range.2
    cases known
    show c.toNat - 97 + 10 < 16
    omega
  split at known
  · rename_i range
    have last : c.toNat ≤ 70 := range.2
    cases known
    show c.toNat - 65 + 10 < 16
    omega
  · cases known

theorem lt_of_isOctal {c : Char} (octal : isOctal c = true) : c.toNat - '0'.toNat < 8 := by
  have range : '0' ≤ c ∧ c ≤ '7' := by simpa [isOctal] using octal
  have last : c.toNat ≤ 55 := range.2
  show c.toNat - 48 < 8
  omega

/-- A digit is put behind a number of few enough digits. -/
theorem exists_appendDigit {base digits digit : Nat} {value : UInt32}
    (small : value.toNat < base ^ digits) (inBase : digit < base)
    (room : base ^ (digits + 1) ≤ UInt32.size) :
    ∃ next, appendDigit base value digit = some next ∧
      next.toNat = value.toNat * base + digit ∧ next.toNat < base ^ (digits + 1) := by
  have bound : value.toNat * base + digit < base ^ (digits + 1) := by
    calc value.toNat * base + digit
        < (value.toNat + 1) * base := by rw [Nat.add_mul, Nat.one_mul]; omega
      _ ≤ base ^ digits * base := Nat.mul_le_mul_right base small
      _ = base ^ (digits + 1) := (Nat.pow_succ ..).symm
  have fits : value.toNat * base + digit < UInt32.size := Nat.lt_of_lt_of_le bound room
  refine ⟨UInt32.ofNatLT _ fits, ?_, ?_, ?_⟩
  · rw [appendDigit, dif_pos fits]
  · rw [UInt32.toNat_ofNatLT]
  · rw [UInt32.toNat_ofNatLT]
    exact bound

theorem pow_le_size {digits : Nat} (few : digits ≤ 8) : 16 ^ digits ≤ UInt32.size :=
  Nat.pow_le_pow_right (by decide) few

/-! ## Numbers -/

/-- A number that was read in a word, as a natural number. -/
def ofWord (number : Option UInt32 × Nat) : Option Nat × Nat :=
  (number.1.map UInt32.toNat, number.2)

theorem map_fixedHexWord {value : UInt32} {before count : Nat} (small : value.toNat < 16 ^ before)
    (room : before + count ≤ 8) (text : List Char) :
    (fixedHexWord value before count text).map ofWord =
      some (fixedHex value.toNat before count text) := by
  induction count generalizing value before text with
  | zero => rfl
  | succ count ih =>
    cases text with
    | nil => rfl
    | cons c text =>
      rw [fixedHexWord, fixedHex]
      cases known : hexDigit c with
      | none => rfl
      | some digit =>
        obtain ⟨next, appended, same, small⟩ :=
          exists_appendDigit small (lt_of_hexDigit known) (pow_le_size (by omega))
        simp only [appended, ← same]
        exact ih small (by omega) text

theorem map_bracedHexWord {value : UInt32} {before : Nat} (small : value.toNat < 16 ^ before)
    (text : List Char) :
    (bracedHexWord value before text).map ofWord = some (bracedHex value.toNat before text) := by
  induction text generalizing value before with
  | nil => rfl
  | cons c text ih =>
    rw [bracedHexWord, bracedHex]
    split
    · split <;> rfl
    cases known : hexDigit c with
    | none => rfl
    | some digit =>
      simp only
      split
      · obtain ⟨next, appended, same, small⟩ :=
          exists_appendDigit small (lt_of_hexDigit known) (pow_le_size (by omega))
        simp only [appended, ← same]
        exact ih small
      · rfl

theorem octalWord_eq_some_octal (text : List Char) : octalWord text = some (octal text) := by
  have octals : ∀ c ∈ (text.take 3).takeWhile isOctal, c.toNat - '0'.toNat < 8 := by
    intro c mem
    exact lt_of_isOctal (List.mem_takeWhile_imp mem)
  unfold octalWord octal
  generalize (text.take 3).takeWhile isOctal = digits at octals ⊢
  rcases digits with _ | ⟨a, _ | ⟨b, _ | ⟨c, _ | ⟨d, digits⟩⟩⟩⟩
  · rfl
  · rfl
  · rfl
  · simp only [List.forall_mem_cons] at octals
    obtain ⟨octalA, octalB, octalC, -⟩ := octals
    have none : (0 : UInt32).toNat < 8 ^ 0 := by decide
    obtain ⟨first, appendedA, sameA, small⟩ := exists_appendDigit none octalA (by decide)
    obtain ⟨second, appendedB, sameB, small⟩ := exists_appendDigit small octalB (by decide)
    obtain ⟨third, appendedC, sameC, -⟩ := exists_appendDigit small octalC (by decide)
    have number : third.toNat = (a.toNat - '0'.toNat) * 64 + (b.toNat - '0'.toNat) * 8 +
        (c.toNat - '0'.toNat) := by
      rw [sameC, sameB, sameA, UInt32.toNat_zero]
      omega
    simp only [List.map_cons, List.map_nil, List.foldlM_cons, List.foldlM_nil, appendedA,
      appendedB, appendedC, Option.bind_eq_bind, Option.bind_some, Option.pure_def,
      Option.map_some, number]
  · rfl

/-- An escape with its number in a word is the escape with the same natural number. -/
theorem map_escape_of_ofWord {word : Option (Option UInt32 × Nat)} {number : Option Nat × Nat}
    (same : word.map ofWord = some number) (decode : Nat → Option Char) (before : Nat) :
    (word.map fun (value, width) =>
        (⟨value.bind fun word => decode word.toNat, before + width⟩ : Escape)) =
      some ⟨number.1.bind decode, before + number.2⟩ := by
  obtain ⟨⟨value, width⟩, rfl, rfl⟩ := Option.map_eq_some_iff.mp same
  cases value <;> rfl

/-- Whatever stands behind a backslash, no number of the escape is too large for a word. -/
theorem readWord_eq_some_read (text : List Char) : readWord text = some (read text) := by
  have fixed : ∀ count, count ≤ 8 → ∀ digits,
      (fixedHexWord 0 0 count digits).map ofWord = some (fixedHex 0 0 count digits) := by
    intro count few digits
    exact map_fixedHexWord (by decide) (by omega) digits
  have braced : ∀ digits,
      (bracedHexWord 0 0 digits).map ofWord = some (bracedHex 0 0 digits) :=
    map_bracedHexWord (by decide)
  cases text with
  | nil => rfl
  | cons kind digits =>
    rw [readWord, read]
    cases single kind with
    | some value => rfl
    | none =>
      simp only
      split
      · exact map_escape_of_ofWord (fixed 2 (by decide) digits) ascii 1
      split
      · exact map_escape_of_ofWord (braced digits.tail) scalar 2
      split
      · exact map_escape_of_ofWord (fixed 4 (by decide) digits) scalar 1
      split
      · exact map_escape_of_ofWord (fixed 8 (by decide) digits) scalar 1
      split
      · exact octalWord_eq_some_octal (kind :: digits)
      · rfl

end LiteralLogic.Escape
