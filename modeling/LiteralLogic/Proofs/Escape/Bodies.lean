import LiteralLogic.Proofs.Escape
import LiteralLogic.Text.CodePoints
import Mathlib.Data.List.TakeWhile

/-!
# Only what spells a text is decoded

What is read as an escape spells the character that comes out, and its width is the
length of the spelling (`begins_of_read`).  A body in which every backslash
begins a pair is decoded pair by pair: behind its first two characters an escape has
neither marks nor backslashes, so the next escape begins where a pair begins.  Hence
`bodySpells_of_decode`.
-/

namespace LiteralLogic.Escape

/-! ## Digits -/

theorem exists_digits_of_fixedHex {value before count n width : Nat} {text : List Char}
    (h : fixedHex value before count text = (some n, width)) :
    ∃ digits rest, text = digits ++ rest ∧ digits.length = count ∧
      numberFrom 16 hexDigit value digits = some n ∧ width = before + count := by
  induction count generalizing value before text with
  | zero =>
    cases h
    exact ⟨[], text, rfl, rfl, rfl, rfl⟩
  | succ count ih =>
    cases text with
    | nil => cases h
    | cons c text =>
      rw [fixedHex] at h
      split at h
      · rename_i digit known
        obtain ⟨digits, rest, rfl, rfl, spelled, rfl⟩ := ih h
        exact ⟨c :: digits, rest, rfl, rfl, numberFrom_cons.mpr ⟨digit, known, spelled⟩, by omega⟩
      · cases h

theorem exists_digits_of_bracedHex {value before n width : Nat} {text : List Char}
    (h : bracedHex value before text = (some n, width)) (room : before ≤ 6) :
    ∃ digits rest, text = digits ++ '}' :: rest ∧ 1 ≤ before + digits.length ∧
      before + digits.length ≤ 6 ∧ numberFrom 16 hexDigit value digits = some n ∧
      width = before + digits.length + 1 := by
  induction text generalizing value before with
  | nil => cases h
  | cons c text ih =>
    rw [bracedHex] at h
    split at h
    · subst c
      split at h
      · cases h
      · cases h
        exact ⟨[], text, rfl, by simp; omega, by simpa using room, rfl, rfl⟩
    · split at h
      · rename_i digit known
        split at h
        · obtain ⟨digits, rest, rfl, one, six, spelled, rfl⟩ := ih h (by omega)
          refine ⟨c :: digits, rest, rfl, ?_, ?_, numberFrom_cons.mpr ⟨digit, known, spelled⟩, ?_⟩
          all_goals
            rw [List.length_cons]
            omega
        · cases h
      · cases h

theorem toNat_of_scalar {n : Nat} {c : Char} (h : scalar n = some c) : c.toNat = n := by
  unfold scalar at h
  split at h
  · rename_i valid
    cases h
    exact Text.toNat_ofNat valid
  · cases h

theorem toNat_of_ascii {n : Nat} {c : Char} (h : ascii n = some c) :
    c.toNat = n ∧ n ≤ 0x7F := by
  unfold ascii at h
  split at h
  · rename_i bound
    cases h
    exact ⟨Text.toNat_ofNat (.inl (by omega)), bound⟩
  · cases h

/-! ## One escape -/

/-- The text begins with so many characters that spell the value; where they are a lone
zero, no octal digit stands behind it. -/
def Begins (text : List Char) (value : Char) (width : Nat) : Prop :=
  ∃ spelling rest, text = spelling ++ rest ∧ spelling.length = width ∧
    Spells spelling value ∧ (spelling = ['0'] → ∀ c ∈ rest.head?, isOctal c = false)

theorem spells_of_single {c value : Char} (h : single c = some value) : Spells [c] value := by
  unfold single at h
  split at h
  all_goals first
    | (cases h; exact .mark (by decide))
    | (cases h; exact .control (by decide))
    | cases h

/-- The characters of one kind with which a text begins, but no more than `count`. -/
theorem exists_run (kind : Char → Bool) (count : Nat) (text : List Char) :
    ∃ rest, text = (text.take count).takeWhile kind ++ rest ∧
      (((text.take count).takeWhile kind).length < count → ∀ c ∈ rest.head?, kind c = false) := by
  induction count generalizing text with
  | zero => exact ⟨text, rfl, fun short => absurd short (Nat.not_lt_zero _)⟩
  | succ count ih =>
    cases text with
    | nil => exact ⟨[], rfl, by simp⟩
    | cons c text =>
      by_cases same : kind c = true
      · obtain ⟨rest, parts, behind⟩ := ih text
        refine ⟨rest, ?_, ?_⟩
        · simpa [same] using parts
        · simpa [same] using behind
      · refine ⟨c :: text, ?_, ?_⟩
        · simp [same]
        · simp [same]

/-- Three octal digits are an escape, and else only a zero that no octal digit follows. -/
theorem begins_of_octal {text : List Char} {value : Char} {width : Nat}
    (h : octal text = ⟨some value, width⟩) :
    Begins text value width := by
  obtain ⟨rest, parts, behind⟩ := exists_run isOctal 3 text
  have octals : ∀ c ∈ (text.take 3).takeWhile isOctal,
      octalDigit c = some (c.toNat - '0'.toNat) := by
    intro c mem
    rw [octalDigit, if_pos (List.mem_takeWhile_imp mem)]
  unfold octal at h
  split at h
  · rename_i a b c digits
    rw [digits] at parts octals
    simp only [List.forall_mem_cons] at octals
    obtain ⟨octalA, octalB, octalC, -⟩ := octals
    simp only [Escape.mk.injEq] at h
    obtain ⟨known, rfl⟩ := h
    obtain ⟨code, bound⟩ := toNat_of_ascii known
    refine ⟨[a, b, c], rest, parts, rfl, .octal rfl ?_ (code ▸ bound), by simp⟩
    rw [code]
    refine numberFrom_cons.mpr ⟨_, octalA, numberFrom_cons.mpr ⟨_, octalB, ?_⟩⟩
    refine numberFrom_cons.mpr ⟨_, octalC, congrArg some ?_⟩
    omega
  · simp only [Escape.mk.injEq, Option.ite_none_right_eq_some] at h
    obtain ⟨⟨digits, known⟩, rfl⟩ := h
    cases known
    rw [digits] at parts behind ⊢
    exact ⟨['0'], rest, parts, rfl, .nul, fun _ => behind (by decide)⟩

/-- A letter and a fixed number of digits are an escape if they spell one. -/
theorem begins_of_fixedHex {decode : Nat → Option Char} {count : Nat} {letter : Char}
    {text : List Char} {value : Char} {width : Nat} (plain : letter ≠ '0')
    (spells : ∀ digits n, digits.length = count → number 16 hexDigit digits = some n →
      decode n = some value → Spells (letter :: digits) value)
    (h : (⟨(fixedHex 0 0 count text).1.bind decode, 1 + (fixedHex 0 0 count text).2⟩ : Escape) =
      ⟨some value, width⟩) :
    Begins (letter :: text) value width := by
  obtain ⟨known, rfl⟩ := Escape.mk.inj h
  obtain ⟨n, known, decoded⟩ := Option.bind_eq_some_iff.mp known
  have whole : fixedHex 0 0 count text = (some n, (fixedHex 0 0 count text).2) := by
    rw [← known]
  obtain ⟨digits, rest, rfl, length, spelled, read⟩ := exists_digits_of_fixedHex whole
  refine ⟨letter :: digits, rest, rfl, ?_, spells digits n length spelled decoded, ?_⟩
  · rw [List.length_cons, length, read]
    omega
  · intro zero
    exact absurd (List.cons.inj zero).1 plain

theorem begins_of_bracedHex {text : List Char} {value : Char} {width : Nat}
    (h : (⟨(bracedHex 0 0 text).1.bind scalar, 2 + (bracedHex 0 0 text).2⟩ : Escape) =
      ⟨some value, width⟩) :
    Begins ('u' :: '{' :: text) value width := by
  obtain ⟨known, rfl⟩ := Escape.mk.inj h
  obtain ⟨n, known, decoded⟩ := Option.bind_eq_some_iff.mp known
  have whole : bracedHex 0 0 text = (some n, (bracedHex 0 0 text).2) := by
    rw [← known]
  obtain ⟨digits, rest, rfl, one, six, spelled, read⟩ :=
    exists_digits_of_bracedHex whole (by decide)
  rw [← toNat_of_scalar decoded] at spelled
  refine ⟨['u', '{'] ++ digits ++ ['}'], rest, by simp, ?_,
    .braced (by omega) (by omega) spelled, by simp⟩
  rw [read]
  simp
  omega

/-- What is read as an escape spells its value, in as many characters as its width says. -/
theorem begins_of_read {text : List Char} {value : Char} {width : Nat}
    (h : read text = ⟨some value, width⟩) :
    Begins text value width := by
  cases text with
  | nil => cases h
  | cons kind text =>
    rw [read] at h
    split at h
    · rename_i short
      cases h
      refine ⟨[kind], text, rfl, rfl, spells_of_single short, ?_⟩
      intro zero
      cases zero
      cases short
    split at h
    · subst kind
      refine begins_of_fixedHex (by decide) ?_ h
      intro digits n two spelled decoded
      obtain ⟨rfl, bound⟩ := toNat_of_ascii decoded
      exact .byte two spelled bound
    split at h
    · rename_i brace
      obtain ⟨rfl, opened⟩ := brace
      obtain ⟨text, rfl⟩ := List.head?_eq_some_iff.mp opened
      exact begins_of_bracedHex h
    split at h
    · subst kind
      refine begins_of_fixedHex (by decide) ?_ h
      intro digits n four spelled decoded
      exact .short four (toNat_of_scalar decoded ▸ spelled)
    split at h
    · subst kind
      refine begins_of_fixedHex (by decide) ?_ h
      intro digits n eight spelled decoded
      exact .long eight (toNat_of_scalar decoded ▸ spelled)
    split at h
    · exact begins_of_octal h
    · cases h

/-! ## Whole bodies -/

/-- The body of a literal: characters that are neither marks nor backslashes, and pairs of
a backslash and any character. -/
inductive IsBody : List Char → Prop
  | nil : IsBody []
  | plain {c : Char} {body : List Char} : c ≠ '"' → c ≠ '\\' → IsBody body → IsBody (c :: body)
  | pair {c : Char} {body : List Char} : IsBody body → IsBody ('\\' :: c :: body)

theorem IsBody.of_cons {c : Char} {body : List Char} (whole : IsBody (c :: body))
    (backslash : c ≠ '\\') : IsBody body := by
  cases whole with
  | plain _ _ rest => exact rest
  | pair => exact absurd rfl backslash

theorem IsBody.of_plain_append {plain body : List Char}
    (h : ∀ c ∈ plain, c ≠ '"' ∧ c ≠ '\\') (whole : IsBody (plain ++ body)) : IsBody body := by
  induction plain with
  | nil => exact whole
  | cons c plain ih =>
    obtain ⟨⟨-, backslash⟩, h⟩ := List.forall_mem_cons.mp h
    exact ih h (whole.of_cons backslash)

/-- Behind an escape the body goes on with a whole pair or a plain character. -/
theorem IsBody.of_escape {spelling body : List Char} {value : Char}
    (spelled : Spells spelling value) (whole : IsBody ('\\' :: (spelling ++ body))) :
    IsBody body := by
  obtain ⟨kind, digits, rfl⟩ := List.exists_cons_of_ne_nil spelled.ne_nil
  cases whole with
  | plain _ backslash => exact absurd rfl backslash
  | pair rest => exact rest.of_plain_append spelled.plain_tail

theorem IsBody.append {front behind : List Char} (first : IsBody front) (second : IsBody behind) :
    IsBody (front ++ behind) := by
  induction first with
  | nil => exact second
  | plain mark backslash _ ih => exact .plain mark backslash ih
  | pair _ ih => exact .pair ih

theorem isBody_of_plain {plain : List Char} (h : ∀ c ∈ plain, c ≠ '"' ∧ c ≠ '\\') :
    IsBody plain := by
  induction plain with
  | nil => exact .nil
  | cons c plain ih =>
    obtain ⟨⟨mark, backslash⟩, rest⟩ := List.forall_mem_cons.mp h
    exact .plain mark backslash (ih rest)

/-- An escape is a pair and plain characters behind it. -/
theorem Spells.isBody {spelling : List Char} {value : Char} (spelled : Spells spelling value) :
    IsBody ('\\' :: spelling) := by
  obtain ⟨kind, digits, rfl⟩ := List.exists_cons_of_ne_nil spelled.ne_nil
  exact .pair (isBody_of_plain spelled.plain_tail)

/-- A body that spells a text is made of plain characters and whole pairs. -/
theorem BodySpells.isBody {body text : List Char} (spelled : BodySpells body text) :
    IsBody body := by
  induction spelled with
  | nil => exact .nil
  | plain mark backslash _ ih => exact .plain mark backslash ih
  | escape spelled _ _ ih => exact spelled.isBody.append ih

theorem bodySpells_of_decodeFrom {body : List Char} (paired : IsBody body) {done out : List Char}
    {index : Nat} (h : decodeFrom done index 0 body = .ok out) :
    ∃ text, out = done.reverse ++ text ∧ BodySpells body text := by
  -- an escape may be longer than a pair, so the induction is on the length
  induction length : body.length using Nat.strongRecOn generalizing body done index with
  | ind n ih =>
    subst n
    cases paired with
    | nil =>
      cases h
      exact ⟨[], by simp, .nil⟩
    | @plain c body mark backslash rest =>
      rw [decodeFrom] at h
      simp only [backslash, if_false] at h
      obtain ⟨text, rfl, spells⟩ := ih body.length (by simp) rest h rfl
      exact ⟨c :: text, by simp, .plain mark backslash spells⟩
    | @pair c body rest =>
      have whole : IsBody ('\\' :: c :: body) := .pair rest
      rw [decodeFrom] at h
      simp only [if_true] at h
      split at h
      · rename_i value known
        obtain ⟨spelling, behind, parts, width, spelled, lone⟩ :=
          begins_of_read (by rw [← known] : read (c :: body) = ⟨some value, _⟩)
        rw [← width, parts, decodeFrom_skip] at h
        rw [parts] at whole
        have shorter : behind.length < ('\\' :: c :: body).length := by
          rw [parts, List.length_cons, List.length_append]
          omega
        obtain ⟨text, rfl, spells⟩ := ih behind.length shorter (whole.of_escape spelled) h rfl
        rw [parts]
        exact ⟨value :: text, by simp, .escape spelled lone spells⟩
      · cases h

/-- A body is decoded to a text only if it spells the text. -/
theorem bodySpells_of_decode {body text : List Char} (paired : IsBody body)
    (h : decode body = .ok text) : BodySpells body text := by
  obtain ⟨_, rfl, spells⟩ := bodySpells_of_decodeFrom paired h
  exact spells

end LiteralLogic.Escape
