/-!
# JSON texts

The JSON values that are written, and their text: one member or item to a line,
indented by two spaces for each level.  Members stand in the order in which an
object lists them.
-/

namespace LiteralLogic

/-- A JSON value. -/
inductive Json where
  | bool (value : Bool)
  | string (value : String)
  | array (items : List Json)
  | object (members : List (String × Json))

namespace Json

/-- A control character by its number, in four hexadecimal digits. -/
def numbered (c : Char) : List Char :=
  let digits := Nat.toDigits 16 c.toNat
  ['\\', 'u'] ++ List.replicate (4 - digits.length) '0' ++ digits

/-- A character between the quotation marks of a JSON string. -/
def quotedChar (c : Char) : List Char :=
  if c = '"' ∨ c = '\\' then ['\\', c]
  else if c = '\x08' then ['\\', 'b']
  else if c = '\x0c' then ['\\', 'f']
  else if c = '\n' then ['\\', 'n']
  else if c = '\r' then ['\\', 'r']
  else if c = '\t' then ['\\', 't']
  else if c.toNat < 0x20 then numbered c
  else [c]

/-- A text as a JSON string. -/
def quote (text : String) : String :=
  String.ofList ('"' :: text.toList.flatMap quotedChar ++ ['"'])

/-- The beginning of a new line at a level of indentation. -/
def newLine (level : Nat) : String :=
  String.ofList ('\n' :: List.replicate (2 * level) ' ')

mutual

/-- Writes a value at a level of indentation behind the text `out`. -/
def write (level : Nat) (out : String) : Json → String
  | .bool value => out ++ (if value then "true" else "false")
  | .string value => out ++ quote value
  | .array [] => out ++ "[]"
  | .array (item :: items) =>
    let out := write (level + 1) (out ++ "[" ++ newLine (level + 1)) item
    writeItems (level + 1) out items ++ newLine level ++ "]"
  | .object [] => out ++ "\x7b\x7d"
  | .object ((name, value) :: members) =>
    let out := out ++ "\x7b" ++ newLine (level + 1) ++ quote name ++ ": "
    let out := write (level + 1) out value
    writeMembers (level + 1) out members ++ newLine level ++ "\x7d"

/-- Writes further items of an array. -/
def writeItems (level : Nat) (out : String) : List Json → String
  | [] => out
  | item :: items => writeItems level (write level (out ++ "," ++ newLine level) item) items

/-- Writes further members of an object. -/
def writeMembers (level : Nat) (out : String) : List (String × Json) → String
  | [] => out
  | (name, value) :: members =>
    let out := out ++ "," ++ newLine level ++ quote name ++ ": "
    writeMembers level (write level out value) members

end

/-- The text of a value. -/
def text (value : Json) : String :=
  write 0 "" value

end Json

end LiteralLogic
