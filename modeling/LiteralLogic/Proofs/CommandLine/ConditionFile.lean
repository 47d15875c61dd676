import LiteralLogic.CommandLine
import LiteralLogic.Proofs.Matcher.Contents
import LiteralLogic.Proofs.RoundTrip

/-!
# Condition files

A file with the text of a condition on each line, or with nothing on it, is read as these
conditions, each at the number of its line.  Whatever its literals hold, the text of a
condition has no character that ends a line (`Condition.oneLine_spelling`): line feeds and
carriage returns are written after a backslash.  So every line feed of the file is one that
was put behind a condition, and no carriage return is taken from the end of a line.
-/

namespace LiteralLogic

/-! ## Texts on one line -/

/-- No character of the text ends a line. -/
def Text.OneLine (text : List Char) : Prop :=
  '\n' ∉ text ∧ '\r' ∉ text

namespace Text.OneLine

instance (text : List Char) : Decidable (OneLine text) :=
  inferInstanceAs (Decidable (_ ∧ _))

theorem append {text behind : List Char} (h : OneLine text) (h' : OneLine behind) :
    OneLine (text ++ behind) :=
  ⟨List.not_mem_append h.1 h'.1, List.not_mem_append h.2 h'.2⟩

theorem flatMap {α : Type} {items : List α} {text : α → List Char}
    (h : ∀ item ∈ items, OneLine (text item)) : OneLine (items.flatMap text) := by
  constructor
  · intro mem
    rcases List.mem_flatMap.mp mem with ⟨item, listed, inText⟩
    exact (h item listed).1 inText
  · intro mem
    rcases List.mem_flatMap.mp mem with ⟨item, listed, inText⟩
    exact (h item listed).2 inText

theorem group {text : List Char} (h : OneLine text) : OneLine ('(' :: text ++ [')']) := by
  have front : OneLine ['('] := by decide
  have back : OneLine [')'] := by decide
  exact (front.append h).append back

/-- A line stays as it is when it is ended and read. -/
theorem lines_append {line : List Char} (h : OneLine line) (rest : List Char) :
    lines (line ++ '\n' :: rest) = line :: lines rest := by
  apply lines_append_lineFeed rest h.1
  intro last
  exact h.2 (List.mem_of_getLast? last)

end Text.OneLine

/-- Texts without line ends are the lines of the text in which each is ended. -/
theorem Text.lines_flatMap {texts : List (List Char)} (h : ∀ text ∈ texts, OneLine text) :
    lines (texts.flatMap (· ++ ['\n'])) = texts := by
  induction texts with
  | nil => rfl
  | cons text texts ih =>
    rcases List.forall_mem_cons.mp h with ⟨first, rest⟩
    rw [List.flatMap_cons, List.append_assoc, List.singleton_append, first.lines_append,
      ih rest]

/-- The number of a character is written with hexadecimal digits, none of which ends a line. -/
theorem Text.oneLine_numbered (c : Char) : OneLine (numbered c) := by
  have digits : ∀ digit ∈ Nat.toDigits 16 c.toNat, ∃ value, Escape.hexDigit digit = some value :=
    Escape.exists_digit_of_numberFrom (Escape.number_toDigits c.toNat)
  have oneLine : OneLine (Nat.toDigits 16 c.toNat) := by
    constructor
    · intro mem
      rcases digits '\n' mem with ⟨value, read⟩
      cases read
    · intro mem
      rcases digits '\r' mem with ⟨value, read⟩
      cases read
  have front : OneLine ['\\', 'u', '{'] := by decide
  have back : OneLine ['}'] := by decide
  exact (front.append oneLine).append back

/-- Characters that end a line are written after a backslash, by a letter. -/
theorem Text.oneLine_quoted (verbatim : Char → Bool) (c : Char) :
    OneLine (quoted verbatim '"' c) := by
  unfold quoted
  split
  · decide
  split
  · decide
  split
  · decide
  -- What is left is written as itself only if it ends no line.
  rename_i noReturn noFeed
  split
  · rename_i mark
    rcases mark with rfl | rfl <;> decide
  split
  · exact ⟨mt List.mem_singleton.mp (Ne.symm noFeed), mt List.mem_singleton.mp (Ne.symm noReturn)⟩
  · exact oneLine_numbered c

theorem Literal.oneLine_spelling (verbatim : Char → Bool) (literal : Literal) :
    Text.OneLine (literal.spelling verbatim) := by
  have body : Text.OneLine (literal.text.toList.flatMap (Text.quoted verbatim '"')) :=
    .flatMap fun c _ => Text.oneLine_quoted verbatim c
  have front : Text.OneLine ['"'] := by decide
  have back : Text.OneLine (if literal.caseInsensitive then ['"', 'i'] else ['"']) := by
    cases literal.caseInsensitive <;> decide
  exact (front.append body).append back

/-- The text of a condition stands on one line. -/
theorem Condition.oneLine_spelling (verbatim : Char → Bool) (condition : Condition) :
    Text.OneLine (condition.spelling verbatim) := by
  induction condition with
  | and left right ihl ihr =>
    have word : Text.OneLine [' ', 'A', 'N', 'D', ' '] := by decide
    exact ((ihl.append word).append ihr).group
  | or left right ihl ihr =>
    have word : Text.OneLine [' ', 'O', 'R', ' '] := by decide
    exact ((ihl.append word).append ihr).group
  | not operand ih =>
    have word : Text.OneLine ['N', 'O', 'T', ' '] := by decide
    rw [spelling]
    split
    · exact word.append ih.group
    · exact word.append ih
  | leaf literal => exact literal.oneLine_spelling verbatim

/-! ## Files -/

/-- The text of a condition on its line; nothing for a blank. -/
def lineOf (entry : Option Condition) : String :=
  entry.elim "" Condition.render

/-- The text of the file with a line for each entry. -/
def conditionFile (entries : List (Option Condition)) : String :=
  String.join (entries.map fun entry => lineOf entry ++ "\n")

theorem lines_conditionFile (entries : List (Option Condition)) :
    (Text.lines (conditionFile entries).toList).map String.ofList = entries.map lineOf := by
  have oneLine : ∀ text ∈ entries.map fun entry => (lineOf entry).toList, Text.OneLine text := by
    intro text mem
    rcases List.mem_map.mp mem with ⟨entry, -, rfl⟩
    cases entry with
    | none => exact ⟨List.not_mem_nil, List.not_mem_nil⟩
    | some condition =>
      show Text.OneLine condition.render.toList
      rw [condition.toList_render]
      exact condition.oneLine_spelling _
  have characters : (conditionFile entries).toList =
      (entries.map fun entry => (lineOf entry).toList).flatMap (· ++ ['\n']) := by
    simp [conditionFile, String.toList_join, List.flatMap_map]
  rw [characters, Text.lines_flatMap oneLine, List.map_map]
  simp

/-- A line is read as the condition that stands on it. -/
theorem readsAs_lineOf (entry : Option Condition) : ReadsAs (lineOf entry) entry := by
  cases entry with
  | none => rfl
  | some condition => exact .of_parse condition.parse_eq_of_render

namespace Matcher

/-- Lines compile to the conditions that stand on them, each in its place. -/
theorem exists_compile_lines (folding : Folding) (entries : List (Option Condition)) :
    ∃ matcher, compile folding (entries.map lineOf) = .ok matcher ∧
      matcher.size = entries.length ∧
      ∀ index : Nat, matcher.condition? index = (entries[index]?).join := by
  have reads : ∀ text ∈ entries.map lineOf, ∃ entry, ReadsAs text entry := by
    intro text mem
    rcases List.mem_map.mp mem with ⟨entry, -, rfl⟩
    exact ⟨entry, readsAs_lineOf entry⟩
  rcases exists_compile folding reads with ⟨matcher, compiled⟩
  rcases exists_compilation compiled with ⟨compilation, compiles, rfl⟩
  have conditions : compilation.conditions.toList = entries := by
    have same : ∀ entry, Condition.ofText? (lineOf entry) = entry :=
      fun entry => (readsAs_lineOf entry).ofText?_eq
    rw [compiles.toList_conditions, List.map_map]
    simp [Function.comp_def, same]
  refine ⟨_, compiled, ?_, ?_⟩
  · rw [← conditions]
    exact Array.length_toList.symm
  · intro index
    rw [← conditions, Array.getElem?_toList]
    rfl

end Matcher

namespace CommandLine

theorem decodeText_toUTF8 (text : String) : decodeText text.toUTF8 = .ok text := by
  have decoded : String.fromUTF8? text.toUTF8 = some text := dif_pos text.isValidUTF8
  rw [decodeText, decoded]

/-- A file with conditions and blanks on its lines, if it is all that the command is given,
compiles to a matcher with these conditions, each at the number of its line. -/
theorem condition?_conditionFile (options : Options) (noOther : options.conditions = [])
    (entries : List (Option Condition)) (nonempty : entries ≠ []) (terminal : Bool) :
    decodeText (conditionFile entries).toUTF8 = .ok (conditionFile entries) ∧
      ∃ matcher, Matcher.compile options.folding
          (options.allConditions (some (conditionFile entries))) = .ok matcher ∧
        matcher.size = entries.length ∧
        (∀ index : Nat, matcher.condition? index = (entries[index]?).join) ∧
        (options.exportField = none → ∃ input,
          options.plan terminal (some (conditionFile entries)) = .ok (.search matcher input)) := by
  have conditions : options.allConditions (some (conditionFile entries)) = entries.map lineOf := by
    rw [Options.allConditions, noOther, lines_conditionFile, List.nil_append]
  rcases Matcher.exists_compile_lines options.folding entries with
    ⟨matcher, compiled, size, places⟩
  refine ⟨decodeText_toUTF8 _, matcher, ?_, size, places, ?_⟩
  · rw [conditions, compiled]
  · intro noExport
    have given : (entries.map lineOf).isEmpty = false := by simpa using nonempty
    refine ⟨if options.input.isEmpty then none else some (" ".intercalate options.input), ?_⟩
    simp only [Options.plan, conditions, given, compiled, noExport, Bool.false_eq_true, if_false]

/-- Line feeds and carriage returns in literals, blanks between conditions and at the end. -/
theorem condition?_of_line_ends : ∃ matcher input,
    Options.plan { asciiFolding := true } false (some
        (conditionFile [some (.not (.not (.leaf ⟨"a\r\n", true⟩))), none,
          some (.or (.leaf ⟨"\n", false⟩) (.leaf ⟨"\r", false⟩)), none])) =
        .ok (.search matcher input) ∧
      matcher.size = 4 ∧
      matcher.condition? 0 = some (.not (.not (.leaf ⟨"a\r\n", true⟩))) ∧
      matcher.condition? 1 = none ∧
      matcher.condition? 2 = some (.or (.leaf ⟨"\n", false⟩) (.leaf ⟨"\r", false⟩)) ∧
      matcher.condition? 3 = none := by
  have file := condition?_conditionFile { asciiFolding := true } rfl
    [some (.not (.not (.leaf ⟨"a\r\n", true⟩))), none,
      some (.or (.leaf ⟨"\n", false⟩) (.leaf ⟨"\r", false⟩)), none]
    (List.cons_ne_nil _ _) false
  rcases file with ⟨-, matcher, -, size, places, plan⟩
  rcases plan rfl with ⟨input, planned⟩
  exact ⟨matcher, input, planned, size, places 0, places 1, places 2, places 3⟩

end CommandLine

end LiteralLogic
