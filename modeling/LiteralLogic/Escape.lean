/-!
# Escapes in quoted literals

Inside a quoted literal a backslash and the characters after it stand for one
character:

* `\"`, `\\`, `\'`, and the letters `a b f n r t v` for the usual controls;
* three octal digits up to 177, and `0` alone where no octal digit follows;
* `x` and two hexadecimal digits up to 7F;
* `u` and four, `U` and eight, or `u` and one to six in braces, for a Unicode
  scalar value.

`Escape.read` looks at what follows a backslash and says how many characters
belong to the escape, also when they stand for nothing.  `Escape.decode` replaces
the escapes of a whole body.
-/

namespace LiteralLogic

/-- What follows a backslash: the character it stands for, if any, and the number
of characters after the backslash that belong to the escape. -/
structure Escape where
  value : Option Char
  width : Nat
deriving DecidableEq

namespace Escape

/-- The value of a hexadecimal digit in either letter case. -/
def hexDigit (c : Char) : Option Nat :=
  if '0' ≤ c ∧ c ≤ '9' then some (c.toNat - '0'.toNat)
  else if 'a' ≤ c ∧ c ≤ 'f' then some (c.toNat - 'a'.toNat + 10)
  else if 'A' ≤ c ∧ c ≤ 'F' then some (c.toNat - 'A'.toNat + 10)
  else none

/-- Whether a character is an octal digit. -/
def isOctal (c : Char) : Bool :=
  '0' ≤ c ∧ c ≤ '7'

/-- The character with a number, if the number is a Unicode scalar value. -/
def scalar (n : Nat) : Option Char :=
  if n.isValidChar then some (Char.ofNat n) else none

/-- The character with a number, if the number is at most 7F. -/
def ascii (n : Nat) : Option Char :=
  if n ≤ 0x7F then some (Char.ofNat n) else none

/-- Reads `count` further hexadecimal digits after `read` digits with the value
`value`.  Without them there is no value, and the characters up to the one that
is no digit are counted. -/
def fixedHex (value read : Nat) : Nat → List Char → Option Nat × Nat
  | 0, _ => (some value, read)
  | _ + 1, [] => (none, read)
  | count + 1, c :: rest =>
    match hexDigit c with
    | some digit => fixedHex (value * 16 + digit) (read + 1) count rest
    | none => (none, read + 1)

/-- Reads further hexadecimal digits up to a closing brace, after `read` digits
with the value `value`.  There are one to six digits; the brace is counted. -/
def bracedHex (value read : Nat) : List Char → Option Nat × Nat
  | [] => (none, read)
  | c :: rest =>
    if c = '}' then (if read = 0 then none else some value, read + 1)
    else
      match hexDigit c with
      | some digit =>
        if read < 6 then bracedHex (value * 16 + digit) (read + 1) rest else (none, read + 1)
      | none => (none, read + 1)

/-- The character that a single letter or mark stands for. -/
def single : Char → Option Char
  | '"' => some '"'
  | '\\' => some '\\'
  | '\'' => some '\''
  | 'a' => some '\x07'
  | 'b' => some '\x08'
  | 'f' => some '\x0c'
  | 'n' => some '\n'
  | 'r' => some '\r'
  | 't' => some '\t'
  | 'v' => some '\x0b'
  | _ => none

/-- An escape that begins with an octal digit: three digits belong together, and
fewer mean something only if they are a single zero. -/
def octal (text : List Char) : Escape :=
  match (text.take 3).takeWhile isOctal with
  | [a, b, c] =>
    ⟨ascii ((a.toNat - '0'.toNat) * 64 + (b.toNat - '0'.toNat) * 8 + (c.toNat - '0'.toNat)), 3⟩
  | digits => ⟨if digits = ['0'] then some '\x00' else none, digits.length⟩

/-- The escape that the characters after a backslash begin with. -/
def read : List Char → Escape
  | [] => ⟨none, 0⟩
  | kind :: digits =>
    match single kind with
    | some value => ⟨some value, 1⟩
    | none =>
      if kind = 'x' then
        let (value, width) := fixedHex 0 0 2 digits
        ⟨value.bind ascii, 1 + width⟩
      else if kind = 'u' ∧ digits.head? = some '{' then
        let (value, width) := bracedHex 0 0 digits.tail
        ⟨value.bind scalar, 2 + width⟩
      else if kind = 'u' then
        let (value, width) := fixedHex 0 0 4 digits
        ⟨value.bind scalar, 1 + width⟩
      else if kind = 'U' then
        let (value, width) := fixedHex 0 0 8 digits
        ⟨value.bind scalar, 1 + width⟩
      else if isOctal kind then octal (kind :: digits)
      else ⟨none, 1⟩

/-- An escape that stands for nothing: where its backslash stands in the body,
and its characters from the backslash on. -/
structure Invalid where
  index : Nat
  text : List Char
deriving DecidableEq

/-- Decodes the rest of a body that goes on at `index`.  `done` holds the
characters decoded so far, latest first; `skip` further characters belong to the
escape that was read last. -/
def decodeFrom (done : List Char) (index skip : Nat) : List Char → Except Invalid (List Char)
  | [] => .ok done.reverse
  | c :: rest =>
    match skip with
    | skip + 1 => decodeFrom done (index + 1) skip rest
    | 0 =>
      if c = '\\' then
        let escape := read rest
        match escape.value with
        | some value => decodeFrom (value :: done) (index + 1) escape.width rest
        | none => .error ⟨index, c :: rest.take escape.width⟩
      else decodeFrom (c :: done) (index + 1) 0 rest

/-- The text that the body of a literal stands for. -/
def decode (body : List Char) : Except Invalid (List Char) :=
  decodeFrom [] 0 0 body

end Escape

end LiteralLogic
