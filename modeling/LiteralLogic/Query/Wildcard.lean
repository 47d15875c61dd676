/-!
# Wildcard patterns

In a wildcard pattern an asterisk stands for any text, a question mark for any
character, and a backslash takes the next character literally.  `containing` is the
pattern of the texts that contain a given one.

`contained_containing` says that the text can be read back out of its pattern.
-/

namespace LiteralLogic.Wildcard

/-- Whether a character means something else than itself in a pattern. -/
def isSpecial (c : Char) : Bool :=
  c = '\\' ∨ c = '*' ∨ c = '?'

/-- The pattern of a text, in which every character stands for itself. -/
def escape (text : List Char) : List Char :=
  text.flatMap fun c => if isSpecial c then ['\\', c] else [c]

/-- The pattern of the texts that contain the given one. -/
def containing (text : List Char) : List Char :=
  '*' :: escape text ++ ['*']

/-- The text that a pattern without asterisks and question marks stands for. -/
def unescape : List Char → List Char
  | '\\' :: c :: pattern => c :: unescape pattern
  | c :: pattern => c :: unescape pattern
  | [] => []

/-- The text that a pattern searches for between its outer asterisks. -/
def contained (pattern : List Char) : List Char :=
  unescape pattern.tail.dropLast

/-- The texts that a pattern accepts. -/
inductive Accepts : List Char → List Char → Prop
  | nil : Accepts [] []
  | skip {pattern text} : Accepts pattern text → Accepts ('*' :: pattern) text
  | more {pattern c text} : Accepts ('*' :: pattern) text → Accepts ('*' :: pattern) (c :: text)
  | any {pattern c text} : Accepts pattern text → Accepts ('?' :: pattern) (c :: text)
  | escaped {c pattern text} : Accepts pattern text → Accepts ('\\' :: c :: pattern) (c :: text)
  | plain {c pattern text} : isSpecial c = false → Accepts pattern text →
      Accepts (c :: pattern) (c :: text)

theorem unescape_cons {c : Char} (plain : c ≠ '\\') (pattern : List Char) :
    unescape (c :: pattern) = c :: unescape pattern := by
  rw [unescape.eq_def]
  split
  · rename_i heq
    exact absurd (List.cons.inj heq).1 plain
  · rename_i heq
    obtain ⟨rfl, rfl⟩ := List.cons.inj heq
    rfl
  · rename_i heq
    exact absurd heq (by simp)

theorem unescape_escape (text : List Char) : unescape (escape text) = text := by
  induction text with
  | nil => rfl
  | cons c text ih =>
    by_cases h : isSpecial c
    · simpa [escape, h, unescape] using ih
    · have plain : c ≠ '\\' := by
        rintro rfl
        exact h (by decide)
      rw [escape, List.flatMap_cons, if_neg h, List.singleton_append, unescape_cons plain, ← escape,
        ih]

theorem contained_containing (text : List Char) : contained (containing text) = text := by
  rw [contained, containing, List.cons_append, List.tail_cons, List.dropLast_concat,
    unescape_escape]

end LiteralLogic.Wildcard
