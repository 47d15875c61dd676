import LiteralLogic.Escape

/-!
# The spellings of literal bodies

Which rows of characters after a backslash stand for which character, and which
bodies of quoted literals stand for which texts.  A body is a row of characters that
stand for themselves and of escapes; the short escape of NUL is one only where no
octal digit follows it.
-/

namespace LiteralLogic.Escape

/-- The number that digits spell in a base, when `digit` gives their values; none if
one of the characters is no digit. -/
def number (base : Nat) (digit : Char → Option Nat) (digits : List Char) : Option Nat :=
  digits.foldlM (fun value c => (digit c).map (value * base + ·)) 0

/-- The value of an octal digit. -/
def octalDigit (c : Char) : Option Nat :=
  if isOctal c then some (c.toNat - '0'.toNat) else none

/-- The letters of the short escapes of control characters, with what they stand
for. -/
def controls : List (Char × Char) :=
  [('a', '\x07'), ('b', '\x08'), ('f', '\x0c'), ('n', '\n'), ('r', '\r'), ('t', '\t'),
    ('v', '\x0b')]

/-- The characters after a backslash that stand for one character. -/
inductive Spells : List Char → Char → Prop
  | mark {c : Char} : c ∈ ['"', '\\', '\''] → Spells [c] c
  | control {letter value : Char} : (letter, value) ∈ controls → Spells [letter] value
  | nul : Spells ['0'] '\x00'
  | octal {digits : List Char} {value : Char} :
    digits.length = 3 → number 8 octalDigit digits = some value.toNat → value.toNat ≤ 0x7F →
    Spells digits value
  | byte {digits : List Char} {value : Char} :
    digits.length = 2 → number 16 hexDigit digits = some value.toNat → value.toNat ≤ 0x7F →
    Spells ('x' :: digits) value
  | short {digits : List Char} {value : Char} :
    digits.length = 4 → number 16 hexDigit digits = some value.toNat → Spells ('u' :: digits) value
  | long {digits : List Char} {value : Char} :
    digits.length = 8 → number 16 hexDigit digits = some value.toNat → Spells ('U' :: digits) value
  | braced {digits : List Char} {value : Char} :
    1 ≤ digits.length → digits.length ≤ 6 → number 16 hexDigit digits = some value.toNat →
    Spells (['u', '{'] ++ digits ++ ['}']) value

/-- A body of a quoted literal stands for a text. -/
inductive BodySpells : List Char → List Char → Prop
  | nil : BodySpells [] []
  | plain {c : Char} {body text : List Char} :
    c ≠ '"' → c ≠ '\\' → BodySpells body text → BodySpells (c :: body) (c :: text)
  | escape {spelling : List Char} {value : Char} {body text : List Char} :
    Spells spelling value → (spelling = ['0'] → ∀ c ∈ body.head?, isOctal c = false) →
    BodySpells body text → BodySpells ('\\' :: spelling ++ body) (value :: text)

/-- An escape has a character after its backslash. -/
theorem Spells.ne_nil {spelling : List Char} {value : Char} (h : Spells spelling value) :
    spelling ≠ [] := by
  cases h with
  | octal three => exact List.ne_nil_of_length_eq_add_one three
  | _ => simp

end LiteralLogic.Escape
