import LiteralLogic.Proofs.Matcher.Refusal
import LiteralLogic.Proofs.SyntaxError
import LiteralLogic.Report

/-!
# Reports on conditions that do not compile

Without colours the report is made of four lines: what is wrong, nothing, the condition, and
a caret below the place at fault.  Nothing in it breaks a line where it should not, whatever
the condition holds: what the message quotes is shown without such characters
(`Text.unbroken_debugQuoted`), and in the condition every white-space character, which they all
are, is shown as a space.  The place is that of a character of the condition, and the
characters before it keep their columns.
-/

namespace LiteralLogic

namespace Text

/-! ## Characters that break lines -/

/-- The characters at which some reader breaks a line: line feed, vertical tab, form feed,
carriage return, next line, line separator and paragraph separator. -/
def lineBreaks : List Char :=
  ['\n', '\x0b', '\x0c', '\r', '\u0085', '\u2028', '\u2029']

/-- No reader breaks the text into lines. -/
def Unbroken (text : List Char) : Prop :=
  ∀ c ∈ text, c ∉ lineBreaks

instance (text : List Char) : Decidable (Unbroken text) :=
  List.decidableBAll (· ∉ lineBreaks) text

theorem Unbroken.append {text behind : List Char} (h : Unbroken text) (h' : Unbroken behind) :
    Unbroken (text ++ behind) :=
  List.forall_mem_append.mpr ⟨h, h'⟩

theorem unbroken_singleton {c : Char} (h : c ∉ lineBreaks) : Unbroken [c] :=
  List.forall_mem_singleton.mpr h

theorem unbroken_flatMap {α : Type} {items : List α} {text : α → List Char}
    (h : ∀ item ∈ items, Unbroken (text item)) : Unbroken (items.flatMap text) := by
  intro c mem
  rcases List.mem_flatMap.mp mem with ⟨item, listed, inText⟩
  exact h item listed c inText

theorem not_isVerbatim_of_mem_lineBreaks : ∀ c ∈ lineBreaks, ¬isVerbatim c = true :=
  List.any_eq_false.mp (by decide +kernel)

theorem isBlank_of_mem_lineBreaks : ∀ c ∈ lineBreaks, isBlank c = true :=
  List.all_eq_true.mp (by decide)

/-- Numbers are written with digits, none of which breaks a line. -/
theorem unbroken_toDigits {base : Nat} (two : 1 < base) (hex : base ≤ 16) (n : Nat) :
    Unbroken (Nat.toDigits base n) := by
  have digit : ∀ d < 16, Nat.digitChar d ∉ lineBreaks := by decide
  induction n using Nat.strongRecOn with
  | ind n ih =>
    rw [Nat.toDigits_eq_if two]
    split
    · exact unbroken_singleton (digit n (by omega))
    · have last : n % base < 16 := Nat.lt_of_lt_of_le (Nat.mod_lt n (by omega)) hex
      exact (ih _ (Nat.div_lt_self (by omega) two)).append (unbroken_singleton (digit _ last))

theorem unbroken_toString (n : Nat) : Unbroken (toString n).toList := by
  rw [Nat.toString_eq_repr, Nat.toList_repr]
  exact unbroken_toDigits (by decide) (by decide) n

theorem unbroken_numbered (c : Char) : Unbroken (numbered c) := by
  have front : Unbroken ['\\', 'u', '{'] := by decide
  have back : Unbroken ['}'] := by decide
  exact (front.append (unbroken_toDigits (by decide) (by decide) _)).append back

/-- A character that breaks lines is quoted by a letter or by its number. -/
theorem unbroken_debugQuoted {mark : Char} (unbroken : mark ∉ lineBreaks) (c : Char) :
    Unbroken (debugQuoted mark c) := by
  unfold debugQuoted quoted
  split
  · decide
  split
  · decide
  split
  · decide
  split
  · decide
  split
  · rename_i marked
    have front : Unbroken ['\\'] := by decide
    refine front.append (unbroken_singleton ?_)
    rcases marked with rfl | rfl
    · decide
    · exact unbroken
  split
  · rename_i shown
    exact unbroken_singleton fun breaks => not_isVerbatim_of_mem_lineBreaks c breaks shown
  · exact unbroken_numbered c

theorem unbroken_debugChar (c : Char) : Unbroken (debugChar c).toList := by
  have mark : Unbroken ['\''] := by decide
  rw [debugChar, String.toList_ofList]
  exact (mark.append (unbroken_debugQuoted (by decide) c)).append mark

theorem unbroken_debugText (text : String) : Unbroken (debugText text).toList := by
  have mark : Unbroken ['"'] := by decide
  rw [debugText, String.toList_ofList]
  exact (mark.append (unbroken_flatMap fun c _ => unbroken_debugQuoted (by decide) c)).append mark

theorem unbroken_flattenBlanks (text : List Char) : Unbroken (flattenBlanks text) := by
  intro shown mem
  rcases List.mem_map.mp mem with ⟨c, -, rfl⟩
  split
  · decide
  · rename_i visible
    exact fun breaks => visible (isBlank_of_mem_lineBreaks c breaks)

theorem unbroken_replicate_space (n : Nat) : Unbroken (List.replicate n ' ') := by
  intro c mem
  rw [List.eq_of_mem_replicate mem]
  decide

end Text

/-! ## Messages -/

/-- The sentence about a condition breaks no line, whatever it quotes. -/
theorem SyntaxError.unbroken_message (error : SyntaxError) :
    Text.Unbroken error.message.toList := by
  rcases error with ⟨offset, fault⟩
  have place := Text.unbroken_toString offset
  have position : Text.Unbroken (toString " at position ").toList := by decide
  cases fault with
  | unexpectedChar found =>
    have front : Text.Unbroken (toString "unexpected character ").toList := by decide
    simp only [message, String.toList_append]
    exact ((front.append (Text.unbroken_debugChar found)).append position).append place
  | invalidEscape escape =>
    have front : Text.Unbroken (toString "invalid escape sequence ").toList := by decide
    simp only [message, String.toList_append]
    exact ((front.append (Text.unbroken_debugText escape)).append position).append place
  | missingOperand operator =>
    have front : Text.Unbroken (toString "missing operand for ").toList := by decide
    have word : Text.Unbroken (toString operator.word).toList := by cases operator <;> decide
    simp only [message, String.toList_append]
    exact ((front.append word).append position).append place
  | unterminatedLiteral | unmatchedParen | emptyGroup | malformed =>
    simp only [message, String.toList_append]
    refine Text.Unbroken.append ?_ place
    decide

/-! ## Reports -/

namespace Report

/-- The lines of the report without colours on a text that is refused. -/
def errorLines (index : Nat) (fault : SyntaxError) (text : String) : List (List Char) :=
  [("error: condition " ++ toString index ++ ": " ++ fault.message).toList, [],
    [' ', ' '] ++ Text.flattenBlanks text.toList,
    [' ', ' '] ++ List.replicate (fault.offset - 1) ' ' ++ ['^']]

theorem toList_compileError {texts : List String} {text : String} {index : Nat}
    {fault : SyntaxError} (present : texts[index]? = some text) :
    (compileError { colored := false } texts ⟨index, .invalid fault⟩).toList =
      ['\n'].intercalate (errorLines index fault text) := by
  have message : CompileError.message ⟨index, .invalid fault⟩ =
      "condition " ++ toString index ++ ": " ++ fault.message := rfl
  simp [compileError, present, message, strong, Palette.paint, errorLines, List.intercalate]

/-- No line of the report is broken once more. -/
theorem unbroken_errorLines (index : Nat) (fault : SyntaxError) (text : String) :
    ∀ line ∈ errorLines index fault text, Text.Unbroken line := by
  have front : Text.Unbroken "error: condition ".toList := by decide
  have colon : Text.Unbroken ": ".toList := by decide
  have margin : Text.Unbroken [' ', ' '] := by decide
  have caret : Text.Unbroken ['^'] := by decide
  simp only [errorLines, List.forall_mem_cons, String.toList_append]
  refine ⟨?_, ?_, ?_, ?_, List.forall_mem_nil _⟩
  · exact ((front.append (Text.unbroken_toString index)).append colon).append fault.unbroken_message
  · exact List.forall_mem_nil _
  · exact margin.append (Text.unbroken_flattenBlanks _)
  · exact (margin.append (Text.unbroken_replicate_space _)).append caret

theorem splitOn_compileError {texts : List String} {text : String} {index : Nat}
    {fault : SyntaxError} (present : texts[index]? = some text) :
    (compileError { colored := false } texts ⟨index, .invalid fault⟩).toList.splitOn '\n' =
      errorLines index fault text := by
  rw [toList_compileError present]
  apply List.splitOn_intercalate
  · intro line mem feed
    exact unbroken_errorLines index fault text line mem '\n' feed List.mem_cons_self
  · exact List.cons_ne_nil _ _

/-- The report without colours on a set of conditions that does not compile has four lines, and
no reader breaks it into more.  The third one shows the condition that is refused, with white
space as spaces, and the caret in the last one stands below the character at the place at
which it is refused. -/
theorem lines_compileError {folding : Folding} {texts : List String} {error : CompileError}
    (failed : Matcher.compile folding texts = .error error) :
    ∃ text fault found, texts[error.index]? = some text ∧ error.cause = .invalid fault ∧
      Condition.parse text = .error fault ∧ 1 ≤ fault.offset ∧
      text.toList[fault.offset - 1]? = some found ∧
      ∃ header shown caret : List Char,
        (compileError { colored := false } texts error).toList.splitOn '\n' =
          [header, [], shown, caret] ∧
        (∀ line ∈ [header, [], shown, caret], Text.Unbroken line) ∧
        header = ("error: condition " ++ toString error.index ++ ": " ++ fault.message).toList ∧
        shown = [' ', ' '] ++ text.toList.map (fun c => if Text.isBlank c then ' ' else c) ∧
        caret = [' ', ' '] ++ List.replicate (fault.offset - 1) ' ' ++ ['^'] ∧
        shown[fault.offset + 1]? = some (if Text.isBlank found then ' ' else found) ∧
        caret[fault.offset + 1]? = some '^' := by
  rcases Matcher.exists_refused_of_compile failed with
    ⟨before, text, after, fault, rfl, ⟨nonempty, refused⟩, -, rfl⟩
  have present : (before ++ text :: after)[before.length]? = some text := by simp
  have bounds := (Condition.pointsInto_of_parse refused).offset_bounds (by simpa using nonempty)
  have within : fault.offset - 1 < text.toList.length := by omega
  have column : fault.offset + 1 = fault.offset - 1 + 2 := by omega
  refine ⟨text, fault, text.toList[fault.offset - 1], present, rfl, refused, bounds.1,
    List.getElem?_eq_getElem within, _, _, _, splitOn_compileError present,
    unbroken_errorLines _ fault text, rfl, rfl, rfl, ?_, ?_⟩
  · rw [column]
    show (Text.flattenBlanks text.toList)[fault.offset - 1]? = _
    rw [Text.flattenBlanks, List.getElem?_map, List.getElem?_eq_getElem within, Option.map_some]
  · rw [column]
    simp

/-- A line separator stands where a token should begin. -/
theorem lines_compileError_of_line_separator :
    Matcher.compile .unicode ["", "\"ok\"", "\"a\" AND\u2028NOT"] =
        .error ⟨2, .invalid ⟨8, .unexpectedChar '\u2028'⟩⟩ ∧
      ∃ header shown caret : List Char,
        (compileError { colored := false } ["", "\"ok\"", "\"a\" AND\u2028NOT"]
          ⟨2, .invalid ⟨8, .unexpectedChar '\u2028'⟩⟩).toList.splitOn '\n' =
          [header, [], shown, caret] ∧
        (∀ line ∈ [header, [], shown, caret], Text.Unbroken line) ∧
        shown = "  \"a\" AND NOT".toList ∧ caret = "         ^".toList := by
  have refused : RefusedAs "\"a\" AND\u2028NOT" ⟨8, .unexpectedChar '\u2028'⟩ :=
    ⟨by decide, by decide +kernel⟩
  have earlier : ∀ text ∈ ["", "\"ok\""], ∃ condition, ReadsAs text condition := by
    simp only [List.forall_mem_cons]
    exact ⟨⟨none, rfl⟩, ⟨some (.leaf ⟨"ok", false⟩), by decide, rfl⟩, by simp⟩
  have failed := Matcher.compile_of_refused .unicode earlier refused []
  rcases lines_compileError failed with
    ⟨text, fault, found, present, cause, -, -, -, header, shown, caret, lines, unbroken, -,
      rfl, rfl, -, -⟩
  cases present
  cases cause
  exact ⟨failed, header, _, _, lines, unbroken, by decide, by decide⟩

end Report

end LiteralLogic
