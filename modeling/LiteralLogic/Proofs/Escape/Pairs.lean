import LiteralLogic.Proofs.Escape.Bodies
import LiteralLogic.Proofs.Escape.Word
import Mathlib.Logic.Relation

/-!
# Decoding goes from pair to pair

A body is decoded in steps.  A step over an escape that stands for a character leaves the
rest of its spelling to be passed over, and where that is done, plain characters and whole
pairs lie behind (`exists_parts_of_reaches`).  So an escape is read at the beginning of a
pair only, with a character behind its backslash.

An escape takes in that character at least, and never more than is left of the body
(`width_read`).  Hence an escape that is reported is not cut short.
-/

namespace LiteralLogic.Escape

/-! ## Widths -/

theorem width_fixedHex (value before count : Nat) (text : List Char) :
    (fixedHex value before count text).2 ≤ before + text.length := by
  induction count generalizing value before text with
  | zero => exact Nat.le_add_right _ _
  | succ count ih =>
    cases text with
    | nil => exact Nat.le_refl _
    | cons c text =>
      rw [fixedHex, List.length_cons]
      split
      · rename_i digit _
        have bound := ih (value * 16 + digit) (before + 1) text
        omega
      · simp only
        omega

theorem width_bracedHex (value before : Nat) (text : List Char) :
    (bracedHex value before text).2 ≤ before + text.length := by
  induction text generalizing value before with
  | nil => exact Nat.le_refl _
  | cons c text ih =>
    rw [bracedHex, List.length_cons]
    split
    · simp only
      omega
    split
    · rename_i digit _
      split
      · have bound := ih (value * 16 + digit) (before + 1)
        omega
      · simp only
        omega
    · simp only
      omega

theorem width_octal (text : List Char) :
    (octal text).width = ((text.take 3).takeWhile isOctal).length := by
  unfold octal
  split
  · rename_i digits
    rw [digits]
    rfl
  · rfl

/-- An escape takes in a character at least, and no more than there are. -/
theorem width_read (kind : Char) (digits : List Char) :
    1 ≤ (read (kind :: digits)).width ∧ (read (kind :: digits)).width ≤ digits.length + 1 := by
  have fixed := width_fixedHex 0 0
  have braced := width_bracedHex 0 0 digits.tail
  rw [List.length_tail] at braced
  rw [read]
  cases single kind with
  | some value => simp
  | none =>
    simp only
    split
    · have bound := fixed 2 digits
      simp only
      omega
    split
    · rename_i brace
      obtain ⟨-, opened⟩ := brace
      have nonempty : digits ≠ [] := by
        rintro rfl
        cases opened
      have := List.length_pos_iff.mpr nonempty
      simp only
      omega
    split
    · have bound := fixed 4 digits
      simp only
      omega
    split
    · have bound := fixed 8 digits
      simp only
      omega
    split
    · rename_i first
      have run := (List.takeWhile_prefix isOctal (l := (kind :: digits).take 3)).length_le
      have few := List.length_take_le' 3 (kind :: digits)
      rw [width_octal]
      rw [List.length_cons] at few
      refine ⟨?_, Nat.le_trans run few⟩
      simp [first]
    · simp

/-! ## Steps -/

/-- A decoding at one moment: the characters that have been decoded, latest first, the place
in the body, how many characters are to be passed over, and what is left of the body. -/
structure DecodingState where
  done : List Char
  index : Nat
  skip : Nat
  rest : List Char

/-- Nothing of the body has been decoded. -/
def DecodingState.start (body : List Char) : DecodingState :=
  ⟨[], 0, 0, body⟩

/-- One step of a decoding takes up the next character.  There is none behind a backslash if
what follows it stands for no character. -/
inductive DecodingStep : DecodingState → DecodingState → Prop
  | pass (done index skip c rest) :
    DecodingStep ⟨done, index, skip + 1, c :: rest⟩ ⟨done, index + 1, skip, rest⟩
  | plain {c : Char} (done index rest) :
    c ≠ '\\' → DecodingStep ⟨done, index, 0, c :: rest⟩ ⟨c :: done, index + 1, 0, rest⟩
  | escape {rest : List Char} {value : Char} (done index) :
    (read rest).value = some value →
    DecodingStep ⟨done, index, 0, '\\' :: rest⟩ ⟨value :: done, index + 1, (read rest).width, rest⟩

/-- A decoding comes from one state to another in any number of steps. -/
abbrev DecodingReaches : DecodingState → DecodingState → Prop :=
  Relation.ReflTransGen DecodingStep

/-- What comes out when the rest of the body is decoded. -/
def DecodingState.outcome (state : DecodingState) : Except Invalid (List Char) :=
  decodeFrom state.done state.index state.skip state.rest

theorem DecodingStep.outcome_eq {state next : DecodingState} (step : DecodingStep state next) :
    state.outcome = next.outcome := by
  cases step with
  | pass => rfl
  | plain done index rest backslash =>
    simp only [DecodingState.outcome, decodeFrom, backslash, if_false]
  | escape done index known =>
    simp only [DecodingState.outcome, decodeFrom, if_true, known]

theorem outcome_eq_of_reaches {state next : DecodingState} (reached : DecodingReaches state next) :
    state.outcome = next.outcome := by
  induction reached with
  | refl => rfl
  | tail _ step ih => rw [ih, step.outcome_eq]

/-- A decoding ends with an error exactly if it comes to a backslash that begins nothing, and
the error is this place with the characters of the escape. -/
theorem outcome_eq_error_iff {state : DecodingState} {invalid : Invalid} :
    state.outcome = .error invalid ↔
      ∃ done rest, DecodingReaches state ⟨done, invalid.index, 0, '\\' :: rest⟩ ∧
        (read rest).value = none ∧ invalid.text = '\\' :: rest.take (read rest).width := by
  constructor
  · intro refused
    obtain ⟨done, index, skip, body⟩ := state
    rw [DecodingState.outcome] at refused
    fun_induction decodeFrom done index skip body with
    | case1 => cases refused
    | case2 _ _ _ _ _ ih =>
      obtain ⟨done, rest, reached, unknown⟩ := ih refused
      exact ⟨done, rest, .head (.pass ..) reached, unknown⟩
    | case3 _ _ _ escape _ known ih =>
      obtain ⟨done, rest, reached, unknown⟩ := ih refused
      exact ⟨done, rest, .head (.escape _ _ known) reached, unknown⟩
    | case4 done index rest escape unknown =>
      cases refused
      exact ⟨done, rest, .refl, unknown, rfl⟩
    | case5 _ _ _ _ backslash ih =>
      obtain ⟨done, rest, reached, unknown⟩ := ih refused
      exact ⟨done, rest, .head (.plain _ _ _ backslash) reached, unknown⟩
  · intro comes
    obtain ⟨done, rest, reached, unknown, text⟩ := comes
    rw [outcome_eq_of_reaches reached]
    simp only [DecodingState.outcome, decodeFrom, if_true, unknown, ← text]

/-! ## Pairs -/

/-- Before a decoding lie whole pairs and plain characters, once the characters that are to be
passed over are added, and behind these lie such, too. -/
theorem exists_parts_of_reaches {body : List Char} (paired : IsBody body) {state : DecodingState}
    (reached : DecodingReaches (.start body) state) :
    ∃ front passed behind, body = front ++ passed ++ behind ∧ state.rest = passed ++ behind ∧
      state.index = front.length ∧ state.skip = passed.length ∧
      IsBody (front ++ passed) ∧ IsBody behind := by
  induction reached with
  | refl => exact ⟨[], [], body, rfl, rfl, rfl, rfl, .nil, paired⟩
  | tail _ step ih =>
    obtain ⟨front, passed, behind, rfl, rest, index, skip, before, after⟩ := ih
    cases step with
    | pass done place left c rest' =>
      simp only at rest index skip
      cases passed with
      | nil => cases skip
      | cons c passed =>
        cases rest
        refine ⟨front ++ [c], passed, behind, by simp, rfl, ?_, ?_, ?_, after⟩
        · simp [index]
        · simpa using skip
        · simpa using before
    | @plain c done place rest' backslash =>
      simp only at rest index skip
      obtain rfl := List.length_eq_zero_iff.mp skip.symm
      cases rest
      have mark : c ≠ '"' := by
        rintro rfl
        cases after
        contradiction
      have single : IsBody [c] := .plain mark backslash .nil
      refine ⟨front ++ [c], [], rest', by simp, rfl, ?_, rfl, ?_, after.of_cons backslash⟩
      · simp [index]
      · simpa using before.append single
    | @escape rest' value done place known =>
      simp only at rest index skip
      obtain rfl := List.length_eq_zero_iff.mp skip.symm
      cases rest
      obtain ⟨spelling, further, parts, width, spelled, -⟩ :=
        begins_of_read (by rw [← known] : read rest' = ⟨some value, _⟩)
      rw [parts] at after
      refine ⟨front ++ ['\\'], spelling, further, by simp [parts], parts, ?_, width.symm, ?_,
        after.of_escape spelled⟩
      · simp [index]
      · simpa using before.append spelled.isBody

/-- A backslash that is met begins a pair. -/
theorem exists_pair_of_reaches {body : List Char} (paired : IsBody body) {done : List Char}
    {index : Nat} {rest : List Char}
    (reached : DecodingReaches (.start body) ⟨done, index, 0, '\\' :: rest⟩) :
    ∃ front c behind, body = front ++ '\\' :: c :: behind ∧ rest = c :: behind ∧
      index = front.length ∧ IsBody front ∧ IsBody behind := by
  obtain ⟨front, passed, behind, parts, left, place, skip, before, after⟩ :=
    exists_parts_of_reaches paired reached
  simp only at left place skip
  obtain rfl := List.length_eq_zero_iff.mp skip.symm
  rw [List.append_nil] at parts before
  rw [List.nil_append] at left
  subst left
  cases after with
  | plain _ backslash => exact absurd rfl backslash
  | @pair c behind rest => exact ⟨front, c, behind, parts, rfl, place, before, rest⟩

/-- The escape that is reported is the part of the body that was read as one. -/
theorem exists_slice_of_decode {body : List Char} (paired : IsBody body) {invalid : Invalid}
    (undecoded : decode body = .error invalid) :
    ∃ done rest, DecodingReaches (.start body) ⟨done, invalid.index, 0, '\\' :: rest⟩ ∧
      (read rest).value = none ∧
      invalid.text = (body.drop invalid.index).take (1 + (read rest).width) ∧
      invalid.text.length = 1 + (read rest).width := by
  have stops : (DecodingState.start body).outcome = .error invalid := undecoded
  obtain ⟨done, rest, reached, unknown, text⟩ := outcome_eq_error_iff.mp stops
  obtain ⟨front, c, behind, parts, rfl, place, -, -⟩ := exists_pair_of_reaches paired reached
  have width := (width_read c behind).2
  refine ⟨done, c :: behind, reached, unknown, ?_, ?_⟩
  · rw [text, parts, place, List.drop_left, Nat.add_comm, List.take_succ_cons]
  · rw [text, List.length_cons, List.length_take, List.length_cons, Nat.min_eq_left width,
      Nat.add_comm]

end LiteralLogic.Escape
