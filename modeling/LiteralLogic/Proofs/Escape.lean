import LiteralLogic.Escape.Spelling
import Mathlib.Data.List.Basic

/-!
# Reading escapes

`read_of_spells` goes through the kinds of escapes: what spells a character is read as
that character, and nothing behind it is touched.  `decode_of_spells` follows for whole
bodies.
-/

namespace LiteralLogic.Escape

/-! ## Digits -/

/-- The value of digits behind others that have the value `value`. -/
def numberFrom (base : Nat) (digit : Char → Option Nat) (value : Nat) (digits : List Char) :
    Option Nat :=
  digits.foldlM (fun value c => (digit c).map (value * base + ·)) value

theorem numberFrom_cons {base : Nat} {digit : Char → Option Nat} {value n : Nat} {c : Char}
    {digits : List Char} :
    numberFrom base digit value (c :: digits) = some n ↔
      ∃ d, digit c = some d ∧ numberFrom base digit (value * base + d) digits = some n := by
  simp only [numberFrom, List.foldlM_cons]
  cases digit c with
  | none => simp
  | some d => simp

theorem numberFrom_append {base : Nat} {digit : Char → Option Nat} {value n : Nat}
    {digits : List Char} (h : numberFrom base digit value digits = some n)
    (further : List Char) :
    numberFrom base digit value (digits ++ further) = numberFrom base digit n further := by
  unfold numberFrom at h ⊢
  rw [List.foldlM_append, h]
  rfl

theorem exists_digit_of_numberFrom {base : Nat} {digit : Char → Option Nat} {value n : Nat}
    {digits : List Char} (h : numberFrom base digit value digits = some n) :
    ∀ c ∈ digits, ∃ d, digit c = some d := by
  induction digits generalizing value with
  | nil => simp
  | cons c digits ih =>
    obtain ⟨d, known, rest⟩ := numberFrom_cons.mp h
    intro c' mem
    rcases List.mem_cons.mp mem with rfl | mem
    · exact ⟨d, known⟩
    · exact ih rest c' mem

theorem fixedHex_of_numberFrom {value n : Nat} {digits : List Char}
    (h : numberFrom 16 hexDigit value digits = some n) (before : Nat) (rest : List Char) :
    fixedHex value before digits.length (digits ++ rest) = (some n, before + digits.length) := by
  induction digits generalizing value before with
  | nil =>
    cases h
    rfl
  | cons c digits ih =>
    obtain ⟨d, known, h⟩ := numberFrom_cons.mp h
    simp only [List.length_cons, List.cons_append, fixedHex, known]
    rw [ih h, Nat.add_right_comm, Nat.add_assoc]

theorem bracedHex_of_numberFrom {value n before : Nat} {digits : List Char}
    (h : numberFrom 16 hexDigit value digits = some n) (nonempty : 1 ≤ before + digits.length)
    (bound : before + digits.length ≤ 6) (rest : List Char) :
    bracedHex value before (digits ++ '}' :: rest) = (some n, before + digits.length + 1) := by
  induction digits generalizing value before with
  | nil =>
    cases h
    have : before ≠ 0 := by
      rw [List.length_nil] at nonempty
      omega
    simp [bracedHex, this]
  | cons c digits ih =>
    obtain ⟨d, known, h⟩ := numberFrom_cons.mp h
    rw [List.length_cons] at nonempty bound
    have brace : c ≠ '}' := by
      rintro rfl
      cases known
    have room : before < 6 := by omega
    simp only [List.cons_append, bracedHex, brace, known, room, if_false, if_true]
    rw [ih h (by omega) (by omega), List.length_cons, Nat.add_right_comm before 1,
      Nat.add_assoc before]

theorem scalar_toNat (c : Char) : scalar c.toNat = some c := by
  have valid : c.toNat.isValidChar := c.valid
  rw [scalar, if_pos valid, Char.ofNat_toNat]

theorem ascii_toNat {c : Char} (bound : c.toNat ≤ 0x7F) : ascii c.toNat = some c := by
  rw [ascii, if_pos bound, Char.ofNat_toNat]

/-! ## One escape -/

theorem single_of_isOctal {c : Char} (h : isOctal c = true) : single c = none := by
  unfold single
  split
  all_goals first | rfl | exact absurd h (by decide)

theorem read_of_isOctal {c : Char} (h : isOctal c = true) (rest : List Char) :
    read (c :: rest) = octal (c :: rest) := by
  have ne : ∀ letter, isOctal letter = false → c ≠ letter := by
    intro letter plain same
    rw [same, plain] at h
    cases h
  simp only [read, single_of_isOctal h, ne 'x' (by decide), ne 'u' (by decide),
    ne 'U' (by decide), h, false_and, if_false, if_true]

theorem octalDigit_eq_some {c : Char} {d : Nat} (h : octalDigit c = some d) :
    isOctal c = true ∧ d = c.toNat - '0'.toNat := by
  unfold octalDigit at h
  split at h
  · exact ⟨‹_›, (Option.some.inj h).symm⟩
  · cases h

theorem octal_of_number {digits : List Char} {n : Nat} (three : digits.length = 3)
    (h : number 8 octalDigit digits = some n) (rest : List Char) :
    read (digits ++ rest) = ⟨ascii n, 3⟩ := by
  obtain ⟨a, b, c, rfl⟩ := List.length_eq_three.mp three
  obtain ⟨da, knownA, h⟩ := numberFrom_cons.mp h
  obtain ⟨db, knownB, h⟩ := numberFrom_cons.mp h
  obtain ⟨dc, knownC, h⟩ := numberFrom_cons.mp h
  obtain ⟨octalA, rfl⟩ := octalDigit_eq_some knownA
  obtain ⟨octalB, rfl⟩ := octalDigit_eq_some knownB
  obtain ⟨octalC, rfl⟩ := octalDigit_eq_some knownC
  have digits : (([a, b, c] ++ rest).take 3).takeWhile isOctal = [a, b, c] := by
    simp [octalA, octalB, octalC]
  rw [List.cons_append, read_of_isOctal octalA, ← List.cons_append, octal, digits]
  cases h
  simp only [Escape.mk.injEq, and_true]
  congr 1
  omega

theorem read_nul {rest : List Char} (lone : ∀ c ∈ rest.head?, isOctal c = false) :
    read ('0' :: rest) = ⟨some '\x00', 1⟩ := by
  rw [read_of_isOctal (by decide)]
  have digits : (('0' :: rest).take 3).takeWhile isOctal = ['0'] := by
    cases rest with
    | nil => decide
    | cons c rest =>
      have plain : isOctal c = false := lone c rfl
      have zero : isOctal '0' = true := by decide
      simp [plain, zero]
  rw [octal, digits]
  rfl

/-- An escape is read as the character that it spells. -/
theorem read_of_spells {spelling : List Char} {value : Char} (h : Spells spelling value)
    {rest : List Char} (lone : spelling = ['0'] → ∀ c ∈ rest.head?, isOctal c = false) :
    read (spelling ++ rest) = ⟨some value, spelling.length⟩ := by
  cases h with
  | mark mem =>
    simp only [List.mem_cons, List.not_mem_nil, or_false] at mem
    rcases mem with rfl | rfl | rfl <;> rfl
  | control mem =>
    simp only [controls, List.mem_cons, List.not_mem_nil, or_false, Prod.mk.injEq] at mem
    rcases mem with ⟨rfl, rfl⟩ | ⟨rfl, rfl⟩ | ⟨rfl, rfl⟩ | ⟨rfl, rfl⟩ | ⟨rfl, rfl⟩ | ⟨rfl, rfl⟩ |
      ⟨rfl, rfl⟩ <;> rfl
  | nul => exact read_nul (lone rfl)
  | octal three known bound =>
    rw [octal_of_number three known, ascii_toNat bound, three]
  | @byte digits _ two known bound =>
    have digitsRead := fixedHex_of_numberFrom known 0 rest
    rw [two] at digitsRead
    have letter : single 'x' = none := rfl
    simp only [read, letter, List.cons_append, if_true, digitsRead, Option.bind_some,
      ascii_toNat bound, List.length_cons, two]
  | @short digits _ four known =>
    have digitsRead := fixedHex_of_numberFrom known 0 rest
    rw [four] at digitsRead
    have brace : (digits ++ rest).head? ≠ some '{' := by
      cases digits with
      | nil => cases four
      | cons c digits =>
        obtain ⟨d, digit⟩ := exists_digit_of_numberFrom known c List.mem_cons_self
        intro same
        cases same
        cases digit
    have letter : single 'u' = none := rfl
    simp only [read, letter, List.cons_append, if_true, digitsRead, Option.bind_some,
      scalar_toNat, List.length_cons, four, brace, and_false, if_false]
    rfl
  | @long digits _ eight known =>
    have digitsRead := fixedHex_of_numberFrom known 0 rest
    rw [eight] at digitsRead
    have letter : single 'U' = none := rfl
    simp only [read, letter, List.cons_append, digitsRead, Option.bind_some,
      scalar_toNat, List.length_cons, eight]
    rfl
  | @braced digits _ one six known =>
    have digitsRead : bracedHex 0 0 (digits ++ '}' :: rest) =
        (some value.toNat, 0 + digits.length + 1) :=
      bracedHex_of_numberFrom known (by omega) (by omega) rest
    have body : ['u', '{'] ++ digits ++ ['}'] ++ rest = 'u' :: '{' :: (digits ++ '}' :: rest) := by
      simp
    rw [body]
    have letter : single 'u' = none := rfl
    simp only [read, letter, List.head?_cons, List.tail_cons, digitsRead, Option.bind_some,
      scalar_toNat]
    simp
    omega

/-- Behind the character after its backslash, an escape has neither a mark nor a
backslash. -/
theorem Spells.plain_tail {spelling : List Char} {value : Char}
    (h : Spells spelling value) : ∀ c ∈ spelling.tail, c ≠ '"' ∧ c ≠ '\\' := by
  have plain : ∀ {base : Nat} {digit : Char → Option Nat} {digits : List Char} {n : Nat},
      digit '"' = none → digit '\\' = none → number base digit digits = some n →
        ∀ c ∈ digits, c ≠ '"' ∧ c ≠ '\\' := by
    intro base digit digits n mark backslash known c mem
    obtain ⟨d, value⟩ := exists_digit_of_numberFrom known c mem
    constructor
    · rintro rfl
      rw [mark] at value
      cases value
    · rintro rfl
      rw [backslash] at value
      cases value
  cases h with
  | mark | control | nul => simp
  | octal _ known =>
    intro c mem
    exact plain (by decide) (by decide) known c (List.mem_of_mem_tail mem)
  | byte _ known | short _ known | long _ known =>
    exact plain (by decide) (by decide) known
  | braced _ _ known =>
    intro c mem
    simp only [List.cons_append, List.tail_cons, List.mem_cons, List.nil_append,
      List.mem_append, List.not_mem_nil, or_false] at mem
    rcases mem with rfl | mem | rfl
    · decide
    · exact plain (by decide) (by decide) known c mem
    · decide

/-! ## Whole bodies -/

theorem decodeFrom_skip (done : List Char) (index : Nat) (skipped rest : List Char) :
    decodeFrom done index skipped.length (skipped ++ rest) =
      decodeFrom done (index + skipped.length) 0 rest := by
  induction skipped generalizing index with
  | nil => rfl
  | cons c skipped ih =>
    rw [List.length_cons, List.cons_append, decodeFrom, ih]
    congr 1
    omega

theorem decodeFrom_of_spells {body text : List Char} (h : BodySpells body text)
    (done : List Char) (index : Nat) :
    decodeFrom done index 0 body = .ok (done.reverse ++ text) := by
  induction h generalizing done index with
  | nil => simp [decodeFrom]
  | plain _ backslash _ ih =>
    simp only [decodeFrom, backslash, if_false]
    rw [ih, List.reverse_cons, List.append_assoc]
    rfl
  | @escape spelling value body text spelled lone _ ih =>
    rw [List.cons_append, decodeFrom]
    simp only [if_true, read_of_spells spelled lone]
    rw [decodeFrom_skip, ih, List.reverse_cons, List.append_assoc]
    rfl

/-- A body is decoded to the text that it spells. -/
theorem decode_of_spells {body text : List Char} (h : BodySpells body text) :
    decode body = .ok text :=
  decodeFrom_of_spells h [] 0

end LiteralLogic.Escape
