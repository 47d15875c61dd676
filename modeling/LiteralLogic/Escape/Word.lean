import LiteralLogic.Escape

/-!
# Escapes in machine words

Escapes are read here with their numbers in words of 32 bits.  A digit is put behind a
number only if the result fits into a word, and where one does not fit the reading has no
outcome at all.
-/

namespace LiteralLogic.Escape

/-- The number with a digit put behind it, if a word can hold it. -/
def appendDigit (base : Nat) (value : UInt32) (digit : Nat) : Option UInt32 :=
  let next := value.toNat * base + digit
  if fits : next < UInt32.size then some (UInt32.ofNatLT next fits) else none

/-- Reads `count` further hexadecimal digits behind a number in a word. -/
def fixedHexWord (value : UInt32) (read : Nat) :
    Nat → List Char → Option (Option UInt32 × Nat)
  | 0, _ => some (some value, read)
  | _ + 1, [] => some (none, read)
  | count + 1, c :: rest =>
    match hexDigit c with
    | some digit =>
      match appendDigit 16 value digit with
      | some value => fixedHexWord value (read + 1) count rest
      | none => none
    | none => some (none, read + 1)

/-- Reads further hexadecimal digits up to a closing brace behind a number in a word. -/
def bracedHexWord (value : UInt32) (read : Nat) : List Char → Option (Option UInt32 × Nat)
  | [] => some (none, read)
  | c :: rest =>
    if c = '}' then some (if read = 0 then none else some value, read + 1)
    else
      match hexDigit c with
      | some digit =>
        if read < 6 then
          match appendDigit 16 value digit with
          | some value => bracedHexWord value (read + 1) rest
          | none => none
        else some (none, read + 1)
      | none => some (none, read + 1)

/-- An escape that begins with an octal digit, with its number in a word. -/
def octalWord (text : List Char) : Option Escape :=
  match (text.take 3).takeWhile isOctal with
  | [a, b, c] =>
    let digits := [a, b, c].map fun c => c.toNat - '0'.toNat
    (digits.foldlM (appendDigit 8) 0).map fun value => ⟨ascii value.toNat, 3⟩
  | digits => some ⟨if digits = ['0'] then some '\x00' else none, digits.length⟩

/-- The escape that the characters after a backslash begin with, with its number in a word. -/
def readWord : List Char → Option Escape
  | [] => some ⟨none, 0⟩
  | kind :: digits =>
    match single kind with
    | some value => some ⟨some value, 1⟩
    | none =>
      if kind = 'x' then
        (fixedHexWord 0 0 2 digits).map fun (value, width) =>
          ⟨value.bind (ascii ·.toNat), 1 + width⟩
      else if kind = 'u' ∧ digits.head? = some '{' then
        (bracedHexWord 0 0 digits.tail).map fun (value, width) =>
          ⟨value.bind (scalar ·.toNat), 2 + width⟩
      else if kind = 'u' then
        (fixedHexWord 0 0 4 digits).map fun (value, width) =>
          ⟨value.bind (scalar ·.toNat), 1 + width⟩
      else if kind = 'U' then
        (fixedHexWord 0 0 8 digits).map fun (value, width) =>
          ⟨value.bind (scalar ·.toNat), 1 + width⟩
      else if isOctal kind then octalWord (kind :: digits)
      else some ⟨none, 1⟩

end LiteralLogic.Escape
