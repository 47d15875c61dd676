import LiteralLogic.Condition.Spelling
import LiteralLogic.Matcher
import LiteralLogic.Text.Blank

/-!
# Reports for a terminal

What a user reads about a match and about conditions that do not compile.  Colours
are escape sequences around a text; without colours the texts stand alone.
-/

namespace LiteralLogic

/-- A way in which a terminal shows text. -/
inductive TextStyle where
  | bold
  | dim
  | red
  | green
  | yellow
  | blue
  | cyan
  | gray
deriving DecidableEq

/-- The number by which a terminal knows a style. -/
def TextStyle.code : TextStyle → Nat
  | .bold => 1
  | .dim => 2
  | .red => 31
  | .green => 32
  | .yellow => 33
  | .blue => 34
  | .cyan => 36
  | .gray => 90

/-- Whether reports are coloured. -/
structure Palette where
  colored : Bool
deriving DecidableEq

/-- A text in a style. -/
def Palette.paint (palette : Palette) (style : TextStyle) (text : String) : String :=
  if palette.colored then "\x1b[" ++ toString style.code ++ "m" ++ text ++ "\x1b[0m" else text

/-- The times that a match took, as texts. -/
structure Timing where
  total : String
  scan : String
  traversal : String

namespace Report

/-- The number of characters of a text that a report shows. -/
def previewLength : Nat := 80

/-- A text cut to the length that a report shows, with an ellipsis if it was longer. -/
def preview (text : String) : String :=
  let shown := text.toList.take previewLength
  if shown.length = text.length then text else String.ofList (shown ++ ['…'])

/-- A text in a style and in bold. -/
def strong (palette : Palette) (style : TextStyle) (text : String) : String :=
  palette.paint .bold (palette.paint style text)

/-- A number in a style. -/
def number (palette : Palette) (style : TextStyle) (n : Nat) : String :=
  palette.paint style (toString n)

/-- The headline of a section, below an empty line. -/
def headline (palette : Palette) (title : String) : List String :=
  ["", palette.paint .gray ("━━━ " ++ title ++ " ━━━")]

/-- The sizes of a compiled set. -/
def stats (palette : Palette) (stats : Stats) : List String :=
  let count := number palette .blue
  let word := palette.paint .dim
  let emptyCount := "(" ++ toString stats.empty ++ " empty)"
  [ "  " ++ count stats.conditions ++ " " ++ word "conditions" ++ "  " ++ word emptyCount ++
      "  " ++ count stats.literals ++ " " ++ word "literals" ++
      "  " ++ count stats.andPaths ++ " " ++ word "AND-paths",
    "  " ++ count stats.patterns ++ " " ++ word "patterns" ++
      "  " ++ count stats.automatonStates ++ " " ++ word "automaton states" ++
      "  " ++ count stats.treeNodes ++ " " ++ word "tree nodes" ]

/-- A condition with its position. -/
def condition (palette : Palette) (matcher : Matcher) (index : Nat) : String :=
  let text := match matcher.condition? index with
    | some condition => condition.render
    | none => ""
  "  " ++ palette.paint .gray ("[" ++ toString index ++ "]") ++ " " ++
    strong palette .green (preview text)

/-- The lines of a report on the match of an input. -/
def matchLines (palette : Palette) (matcher : Matcher) (input : String) (run : Run)
    (timing : Timing) : List String :=
  ["", strong palette .cyan ("⚙  Matching: " ++ Text.debugText (preview input))] ++
  headline palette "Compiled" ++ stats palette matcher.stats ++
  headline palette "Matches" ++
  (if run.indices.isEmpty then [palette.paint .dim "  No condition matched"]
    else run.indices.map (condition palette matcher)) ++
  (if matcher.negatives.isEmpty then []
    else headline palette "Negative-only (visited on every input)" ++
      matcher.negatives.map (condition palette matcher)) ++
  headline palette "Timing" ++
  [ "  Total: " ++ palette.paint .green timing.total ++
      "  │  Scan: " ++ palette.paint .cyan timing.scan ++
      "  │  Traversal: " ++ palette.paint .dim timing.traversal,
    "  " ++ palette.paint .dim "literals present:" ++ " " ++
      number palette .yellow run.literalsPresent ++
      "  " ++ palette.paint .dim "│ nodes visited:" ++ " " ++
      number palette .yellow run.nodesVisited,
    "" ]

/-- The report on a condition that does not compile: what is wrong and, where a
place in its text is known, the text on one line with a caret below the place. -/
def compileError (palette : Palette) (texts : List String) (error : CompileError) : String :=
  let header := strong palette .red "error:" ++ " " ++ error.message
  match error.cause, texts[error.index]? with
  | .invalid cause, some text =>
    let shown := String.ofList (Text.flattenBlanks text.toList)
    let margin := String.ofList (List.replicate (cause.offset - 1) ' ')
    header ++ "\n\n  " ++ shown ++ "\n  " ++ margin ++ palette.paint .red "^"
  | _, _ => header

end Report

end LiteralLogic
