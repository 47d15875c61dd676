import LiteralLogic.Text.Utf8

/-!
# Texts inside texts, as bytes

The bytes of a text occur in the bytes of another exactly if the text occurs in the
other.  The first byte of a character is never a later byte of another one, so an
occurrence begins between two characters; and no character's bytes are the beginning of
another's, so it goes on character by character.
-/

namespace LiteralLogic.Text

theorem exists_lead (c : Char) :
    ∃ lead tail, String.utf8EncodeChar c = lead :: tail ∧ lead.IsUTF8FirstByte ∧
      ∀ byte ∈ tail, ¬ byte.IsUTF8FirstByte := by
  obtain ⟨lead, tail, bytes⟩ := List.exists_cons_of_ne_nil (String.utf8EncodeChar_ne_nil (c := c))
  have first : ∀ (i : Nat) (byte : UInt8), (lead :: tail)[i]? = some byte →
      (byte.IsUTF8FirstByte ↔ i = 0) := by
    intro i byte known
    rw [← bytes] at known
    obtain ⟨bound, rfl⟩ := List.getElem?_eq_some_iff.mp known
    exact UInt8.isUTF8FirstByte_getElem_utf8EncodeChar
  refine ⟨lead, tail, bytes, (first 0 lead rfl).mpr rfl, ?_⟩
  intro byte mem isFirst
  obtain ⟨i, known⟩ := List.mem_iff_getElem?.mp mem
  exact Nat.succ_ne_zero i ((first (i + 1) byte known).mp isFirst)

theorem utf8_cons (c : Char) (text : List Char) :
    utf8 (c :: text) = String.utf8EncodeChar c ++ utf8 text :=
  List.flatMap_cons

/-- The bytes of a character tell it, whatever stands behind them. -/
theorem utf8EncodeChar_append_inj {c d : Char} {rest rest' : List UInt8}
    (h : String.utf8EncodeChar c ++ rest = String.utf8EncodeChar d ++ rest') :
    c = d ∧ rest = rest' := by
  have decoded := ByteArray.utf8DecodeChar?_utf8EncodeChar_append (b := rest.toByteArray) (c := c)
  rw [← List.toByteArray_append, h, List.toByteArray_append,
    ByteArray.utf8DecodeChar?_utf8EncodeChar_append] at decoded
  cases decoded
  exact ⟨rfl, List.append_cancel_left h⟩

theorem isPrefix_of_utf8 {pattern text : List Char} (h : utf8 pattern <+: utf8 text) :
    pattern <+: text := by
  induction pattern generalizing text with
  | nil => exact List.nil_prefix
  | cons c pattern ih =>
    obtain ⟨rest, bytes⟩ := h
    rw [utf8_cons, List.append_assoc] at bytes
    cases text with
    | nil =>
      have none := (List.append_eq_nil_iff.mp bytes).1
      exact absurd none String.utf8EncodeChar_ne_nil
    | cons d text =>
      rw [utf8_cons] at bytes
      obtain ⟨rfl, behind⟩ := utf8EncodeChar_append_inj bytes
      exact List.cons_prefix_cons.mpr ⟨rfl, ih ⟨rest, behind⟩⟩

/-- Bytes that begin with the first byte of a character begin between two characters. -/
theorem exists_append_of_utf8_eq {text : List Char} {before rest : List UInt8} {lead : UInt8}
    (isFirst : lead.IsUTF8FirstByte) (h : utf8 text = before ++ lead :: rest) :
    ∃ front back, text = front ++ back ∧ lead :: rest = utf8 back := by
  induction text generalizing before with
  | nil =>
    have none : (before ++ lead :: rest) = [] := h.symm
    simp at none
  | cons c text ih =>
    rw [utf8_cons] at h
    rcases List.append_eq_append_iff.mp h with ⟨further, rfl, bytes⟩ | ⟨further, encoded, bytes⟩
    · obtain ⟨front, back, rfl, same⟩ := ih bytes
      exact ⟨c :: front, back, rfl, same⟩
    · cases before with
      | nil => exact ⟨[], c :: text, rfl, by rw [utf8_cons, encoded, bytes]; rfl⟩
      | cons byte before =>
        cases further with
        | nil => exact ⟨[c], text, rfl, bytes⟩
        | cons later further =>
          -- the first byte would be a later byte of `c`
          obtain ⟨first, tail, parts, -, plain⟩ := exists_lead c
          rw [parts] at encoded
          obtain ⟨-, rfl⟩ := List.cons.inj encoded
          obtain ⟨rfl, -⟩ := List.cons.inj bytes
          exact absurd isFirst (plain lead (by simp))

theorem isInfix_of_utf8 {pattern text : List Char} (h : utf8 pattern <:+: utf8 text) :
    pattern <:+: text := by
  cases pattern with
  | nil => exact List.nil_infix
  | cons c pattern =>
    obtain ⟨before, after, bytes⟩ := h
    obtain ⟨lead, tail, encoded, isFirst, -⟩ := exists_lead c
    have split : utf8 text = before ++ lead :: (tail ++ utf8 pattern ++ after) := by
      rw [← bytes, utf8_cons, encoded]
      simp
    obtain ⟨front, back, rfl, same⟩ := exists_append_of_utf8_eq isFirst split
    have begins : utf8 (c :: pattern) <+: utf8 back := by
      refine ⟨after, ?_⟩
      rw [← same, utf8_cons, encoded]
      simp
    exact (isPrefix_of_utf8 begins).isInfix.trans (List.suffix_append front back).isInfix

theorem utf8_infix_iff {pattern text : List Char} :
    utf8 pattern <:+: utf8 text ↔ pattern <:+: text := by
  refine ⟨isInfix_of_utf8, ?_⟩
  intro occurs
  obtain ⟨before, after, rfl⟩ := occurs
  exact ⟨utf8 before, utf8 after, by simp only [utf8_append]⟩

end LiteralLogic.Text
