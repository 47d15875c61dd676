import LiteralLogic.CommandLine.Arguments
import LiteralLogic.Report
import LiteralLogic.Text.Lines

/-!
# The command

The command compiles the conditions that its options give and either exports them as
a query or matches an input against them.  `plan` says what follows from the options
and the text of the condition file, and `matchReport` is what a match prints; how texts
come to be read is left to the host of the command.
-/

namespace LiteralLogic.CommandLine

/-- Why a text could not be read. -/
inductive ReadFailure where
  | notFound
  | permissionDenied
  | notDirectory
  | isDirectory
  | nameTooLong
  | notUtf8
  | other (reason : String)

/-- The words that tell a user why a text could not be read. -/
def ReadFailure.message : ReadFailure → String
  | .notFound => "No such file or directory (os error 2)"
  | .permissionDenied => "Permission denied (os error 13)"
  | .notDirectory => "Not a directory (os error 20)"
  | .isDirectory => "Is a directory (os error 21)"
  | .nameTooLong => "File name too long (os error 36)"
  | .notUtf8 => "stream did not contain valid UTF-8"
  | .other reason => reason

/-- The text of the bytes of a file, if they are UTF-8. -/
def decodeText (bytes : ByteArray) : Except ReadFailure String :=
  match String.fromUTF8? bytes with
  | some text => .ok text
  | none => .error .notUtf8

/-- What the user is told if a file cannot be read. -/
def fileError (path : String) (failure : ReadFailure) : String :=
  "error: failed to read " ++ path ++ ": " ++ failure.message

/-- What the user is told if the input cannot be read. -/
def inputError (failure : ReadFailure) : String :=
  "error: failed to read stdin: " ++ failure.message

/-- The text of the version. -/
def versionText : String := "boolsieve 0.1.0"

/-- A short account of the options. -/
def helpText : String :=
  "Usage: boolsieve [-c CONDITION]... [-f PATH] [--ascii-folding] [--export [FIELD]]\n" ++
  "                 [--match-phrase] [--color | --no-color] [INPUT]..."

/-- The input that was read from a stream, without the line end of its last line. -/
def trimLineEnd (text : String) : String :=
  match text.toList.reverse with
  | '\n' :: '\r' :: rest => String.ofList rest.reverse
  | '\n' :: rest => String.ofList rest.reverse
  | _ => text

/-- What is to be done: print a text, or match an input, which is yet to be read if it
was not given. -/
inductive Plan where
  | print (text : String)
  | search (matcher : Matcher) (input : Option String)

/-- The conditions of the options, and behind them those of a condition file. -/
def Options.allConditions (options : Options) (fileText : Option String) : List String :=
  match fileText with
  | none => options.conditions
  | some text => options.conditions ++ (Text.lines text.toList).map String.ofList

/-- The folding that the options choose. -/
def Options.folding (options : Options) : Folding :=
  if options.asciiFolding then .ascii else .unicode

/-- The palette that the options choose, on a terminal or not. -/
def Options.palette (options : Options) (terminal : Bool) : Palette :=
  { colored := options.color || !options.noColor && terminal }

/-- What follows from the options and the text of the condition file, or what the user
is told instead. -/
def Options.plan (options : Options) (terminal : Bool) (fileText : Option String) :
    Except String Plan :=
  let conditions := options.allConditions fileText
  if conditions.isEmpty then
    .error ("error: no conditions given (use -c or -f)\n\n" ++
      "For more information, try '--help'.")
  else
    match Matcher.compile options.folding conditions with
    | .error error => .error (Report.compileError (options.palette terminal) conditions error)
    | .ok matcher =>
      match options.exportField with
      | some field =>
        let style := if options.matchPhrase then LeafStyle.matchPhrase else .wildcard
        .ok (.print (Query.jsonOfOption (matcher.query { field, style })).text)
      | none =>
        .ok (.search matcher
          (if options.input.isEmpty then none else some (" ".intercalate options.input)))

/-- What a match prints. -/
def matchReport (options : Options) (terminal : Bool) (matcher : Matcher) (input : String)
    (run : Run) (timing : Timing) : String :=
  "\n".intercalate (Report.matchLines (options.palette terminal) matcher input run timing)

end LiteralLogic.CommandLine
