import LiteralLogic.Proofs.Token.Pieces
import Mathlib.Algebra.Ring.Parity

/-!
# Texts that are not made of pieces

The reader of tokens stops at the first character with which no piece begins.  What it
reports is found in the text at the reported place: the character itself, the mark of a
literal that never ends, or the escape that stands for nothing.  All places are counted
in characters of the whole text, also those inside the body of a literal.
-/

namespace LiteralLogic

namespace Token

/-! ## Literals that never end -/

/-- A character behind these is escaped: an odd number of backslashes stands before it. -/
def Escapes (before : List Char) : Prop :=
  Odd (before.reverse.takeWhile (· = '\\')).length

theorem not_escapes_nil : ¬Escapes [] := by
  simp [Escapes]

theorem escapes_concat_iff {before : List Char} {c : Char} :
    Escapes (before ++ [c]) ↔ c = '\\' ∧ ¬Escapes before := by
  by_cases backslash : c = '\\'
  · simp [Escapes, backslash, Nat.odd_add_one]
  · simp [Escapes, backslash]

/-- If no body can be split off, every mark is escaped. -/
theorem escapes_of_splitBody_eq_none {text done before : List Char} {escaped : Bool}
    (state : escaped = true ↔ Escapes before) (endless : splitBody done escaped text = none)
    {inner behind : List Char} (parts : text = inner ++ '"' :: behind) :
    Escapes (before ++ inner) := by
  induction inner generalizing text done before escaped with
  | nil =>
    subst parts
    rw [List.append_nil]
    apply state.mp
    cases escaped with
    | true => rfl
    | false => simp [splitBody] at endless
  | cons c inner ih =>
    subst parts
    rw [List.append_cons]
    rw [List.cons_append, splitBody] at endless
    split at endless
    · rename_i pair
      refine ih ?_ endless rfl
      simp [escapes_concat_iff, state.mp pair]
    · rename_i single
      have free : ¬Escapes before := fun escapes => single (state.mpr escapes)
      split at endless
      · cases endless
      · refine ih ?_ endless rfl
        simp [escapes_concat_iff, free]

end Token

/-! ## Escapes that stand for nothing -/

/-- The escape that is reported stands in the body at the reported place. -/
theorem Escape.decodeFrom_eq_error {done body : List Char} {index skip : Nat} {invalid : Invalid}
    (refused : decodeFrom done index skip body = .error invalid) :
    ∃ front escape behind, body = front ++ invalid.text ++ behind ∧
      invalid.text = '\\' :: escape ∧ invalid.index = index + front.length := by
  induction body generalizing done index skip with
  | nil => cases refused
  | cons c body ih =>
    -- behind a character that is passed over the places are one less
    have pass : ∀ {done : List Char} {skip : Nat},
        decodeFrom done (index + 1) skip body = .error invalid →
          ∃ front escape behind, c :: body = front ++ invalid.text ++ behind ∧
            invalid.text = '\\' :: escape ∧ invalid.index = index + front.length := by
      intro done skip refused
      rcases ih refused with ⟨front, escape, behind, parts, text, place⟩
      refine ⟨c :: front, escape, behind, by rw [parts]; rfl, text, ?_⟩
      rw [place, List.length_cons]
      omega
    cases skip with
    | succ skip => exact pass refused
    | zero =>
      rw [decodeFrom] at refused
      split at refused
      · rename_i backslash
        subst backslash
        simp only at refused
        split at refused
        · exact pass refused
        · cases refused
          refine ⟨[], body.take (read body).width, body.drop (read body).width, ?_, rfl, rfl⟩
          rw [List.nil_append, List.cons_append, List.take_append_drop]
      · exact pass refused

/-! ## Pieces and texts -/

/-- What stands in a text at the place where it is refused because no piece begins there. -/
inductive SyntaxError.AtChar (text : List Char) : SyntaxError → Prop
  | unexpectedChar {front behind : List Char} {found : Char} :
    text = front ++ found :: behind →
    SyntaxError.AtChar text ⟨front.length + 1, .unexpectedChar found⟩
  | unterminatedLiteral {front rest : List Char} :
    text = front ++ '"' :: rest →
    (∀ inner behind, rest = inner ++ '"' :: behind → Token.Escapes inner) →
    SyntaxError.AtChar text ⟨front.length + 1, .unterminatedLiteral⟩
  | invalidEscape {front escape behind : List Char} :
    text = front ++ ('\\' :: escape) ++ behind →
    SyntaxError.AtChar text ⟨front.length + 1, .invalidEscape (String.ofList ('\\' :: escape))⟩

namespace Token

theorem atChar_of_readLiteral {front rest : List Char} {error : SyntaxError}
    (refused : Piece.readLiteral (front.length + 1) rest = .error error) :
    error.AtChar (front ++ '"' :: rest) := by
  unfold Piece.readLiteral at refused
  split at refused
  · rename_i endless
    cases refused
    refine .unterminatedLiteral rfl fun inner behind parts => ?_
    have state : false = true ↔ Escapes [] := by simp [not_escapes_nil]
    exact escapes_of_splitBody_eq_none state endless parts
  · rename_i body behind parts
    rcases body_of_splitBody parts with ⟨rfl, -⟩
    split at refused
    · rename_i invalid undecoded
      rcases Escape.decodeFrom_eq_error undecoded with
        ⟨inner, escape, rest, rfl, text, place⟩
      cases refused
      have offset :
          front.length + 1 + 1 + (0 + inner.length) = (front ++ '"' :: inner).length + 1 := by
        rw [List.length_append, List.length_cons]
        omega
      rw [place, text, offset]
      -- the escape stands behind the mark and what is before it in the body
      have parts : front ++ '"' :: (inner ++ '\\' :: escape ++ rest ++ '"' :: behind) =
          (front ++ '"' :: inner) ++ ('\\' :: escape) ++ (rest ++ '"' :: behind) := by
        simp
      exact .invalidEscape parts
    · cases refused

theorem atChar_of_read {front rest : List Char} {c : Char} {error : SyntaxError}
    (refused : Piece.read (front.length + 1) c rest = .error error) :
    error.AtChar (front ++ c :: rest) := by
  unfold Piece.read at refused
  split at refused
  · cases refused
  split at refused
  · cases refused
  split at refused
  · subst c
    exact atChar_of_readLiteral refused
  split at refused
  · cases refused
  split at refused
  · cases refused
  · cases refused
    exact .unexpectedChar rfl

/-- The reader stops at a character of the text with which no piece begins. -/
theorem exists_read_of_scanFrom {done : List Token} {offset skip : Nat} {text : List Char}
    {error : SyntaxError} (refused : scanFrom done offset skip text = .error error) :
    ∃ front c rest, text = front ++ c :: rest ∧
      Piece.read (offset + front.length) c rest = .error error := by
  induction text generalizing done offset skip with
  | nil => cases refused
  | cons c text ih =>
    -- behind a character that is passed over the places are one less
    have pass : ∀ {done : List Token} {skip : Nat},
        scanFrom done (offset + 1) skip text = .error error →
          ∃ front c' rest, c :: text = front ++ c' :: rest ∧
            Piece.read (offset + front.length) c' rest = .error error := by
      intro done skip refused
      rcases ih refused with ⟨front, c', rest, parts, read⟩
      refine ⟨c :: front, c', rest, by rw [parts]; rfl, ?_⟩
      rw [List.length_cons, Nat.add_comm front.length, ← Nat.add_assoc]
      exact read
    cases skip with
    | succ skip => exact pass refused
    | zero =>
      rw [scanFrom] at refused
      split at refused
      · rename_i read
        cases refused
        exact ⟨[], c, text, rfl, read⟩
      · exact pass refused
      · exact pass refused

theorem atChar_of_scan {text : String} {error : SyntaxError} (refused : scan text = .error error) :
    error.AtChar text.toList := by
  rcases exists_read_of_scanFrom refused with ⟨front, c, rest, parts, read⟩
  rw [Nat.add_comm] at read
  rw [parts]
  exact atChar_of_read read

end Token

end LiteralLogic
