/-!
# Command-line arguments

Arguments are read from left to right.  Options that take a value take it from their
own argument, behind an equals sign or directly behind a short name, or else from
the next argument; an argument that begins with a dash is never taken as a value,
the dash alone excepted.  Everything behind `--` and everything that is neither
option nor value belongs to the input.

Only conditions may be given more than once.  Asking for help or for the version
ends the reading; whatever is wrong further to the left is reported first.
-/

namespace LiteralLogic.CommandLine

/-- What a user asks for. -/
structure Options where
  /-- The conditions given one by one. -/
  conditions : List String := []
  /-- The file that holds further conditions. -/
  file : Option String := none
  asciiFolding : Bool := false
  /-- The document field of the query to export. -/
  exportField : Option String := none
  matchPhrase : Bool := false
  color : Bool := false
  noColor : Bool := false
  /-- The words of the input. -/
  input : List String := []

/-- What the arguments amount to. -/
inductive Request where
  | run (options : Options)
  | version
  | help

/-- Options that are present or not. -/
inductive Switch where
  | asciiFolding
  | matchPhrase
  | color
  | noColor
deriving DecidableEq

/-- Options with a value. -/
inductive Setting where
  | condition
  | file
  | exportField
deriving DecidableEq

/-- What the name of an option stands for. -/
inductive OptionKind where
  | switch (switch : Switch)
  | setting (setting : Setting)
  | version
  | help

/-- Why arguments are refused. -/
inductive UsageError where
  | unknown (argument : String)
  | missingValue (setting : Setting)
  | unexpectedValue (argument : String)
  | repeated (name : String)
  | conflict (name other : String)
  | missingOption (name needed : String)

namespace Switch

/-- The long name of a switch. -/
def name : Switch → String
  | .asciiFolding => "--ascii-folding"
  | .matchPhrase => "--match-phrase"
  | .color => "--color"
  | .noColor => "--no-color"

end Switch

namespace Setting

/-- The long name of an option with a value. -/
def name : Setting → String
  | .condition => "--condition"
  | .file => "--file"
  | .exportField => "--export"

end Setting

/-- The sentence that tells a user why arguments are refused. -/
def UsageError.message : UsageError → String
  | .unknown argument => "error: unexpected argument '" ++ argument ++ "' found"
  | .missingValue setting => "error: a value is required for '" ++ setting.name ++ "'"
  | .unexpectedValue argument => "error: unexpected value in '" ++ argument ++ "'"
  | .repeated name => "error: the argument '" ++ name ++ "' cannot be used multiple times"
  | .conflict name other =>
    "error: the argument '" ++ name ++ "' cannot be used with '" ++ other ++ "'"
  | .missingOption name needed =>
    "error: the argument '" ++ name ++ "' needs '" ++ needed ++ "'"

namespace OptionKind

/-- The option with a long name. -/
def ofLongName : String → Option OptionKind
  | "condition" => some (.setting .condition)
  | "file" => some (.setting .file)
  | "export" => some (.setting .exportField)
  | "ascii-folding" => some (.switch .asciiFolding)
  | "match-phrase" => some (.switch .matchPhrase)
  | "color" => some (.switch .color)
  | "no-color" => some (.switch .noColor)
  | "version" => some .version
  | "help" => some .help
  | _ => none

/-- The option with a short name. -/
def ofShortName : Char → Option OptionKind
  | 'c' => some (.setting .condition)
  | 'f' => some (.setting .file)
  | 'V' => some .version
  | 'h' => some .help
  | _ => none

end OptionKind

namespace Options

/-- Whether a switch is present. -/
def isOn (options : Options) : Switch → Bool
  | .asciiFolding => options.asciiFolding
  | .matchPhrase => options.matchPhrase
  | .color => options.color
  | .noColor => options.noColor

/-- The options with a switch present. -/
def turnOn (options : Options) (switch : Switch) : Except UsageError Options :=
  if options.isOn switch then .error (.repeated switch.name)
  else
    .ok <| match switch with
      | .asciiFolding => { options with asciiFolding := true }
      | .matchPhrase => { options with matchPhrase := true }
      | .color => { options with color := true }
      | .noColor => { options with noColor := true }

/-- The options with a value given.  A file needs a name. -/
def give (options : Options) (setting : Setting) (value : String) : Except UsageError Options :=
  match setting with
  | .condition => .ok { options with conditions := options.conditions ++ [value] }
  | .file =>
    if value = "" then .error (.missingValue .file)
    else if options.file.isSome then .error (.repeated setting.name)
    else .ok { options with file := some value }
  | .exportField =>
    if options.exportField.isSome then .error (.repeated setting.name)
    else .ok { options with exportField := some value }

/-- The options after one that got no value: the field of a query has a default,
and the others need their value. -/
def giveDefault (options : Options) : Option Setting → Except UsageError Options
  | none => .ok options
  | some .exportField => options.give .exportField "raw"
  | some setting => .error (.missingValue setting)

/-- The request for a run, if the options agree with each other. -/
def request (options : Options) : Except UsageError Request :=
  if options.color && options.noColor then .error (.conflict "--color" "--no-color")
  else if options.matchPhrase && options.exportField.isNone then
    .error (.missingOption "--match-phrase" "--export")
  else .ok (.run options)

end Options

/-- What reading one argument leads to: reading on, while an option may wait for its
value, or the end. -/
inductive Progress where
  | more (options : Options) (waiting : Option Setting)
  | done (request : Request)

/-- Reads a long option, given its name and its value behind an equals sign. -/
def readLong (options : Options) (argument name : String) (value : Option String) :
    Except UsageError Progress :=
  match OptionKind.ofLongName name, value with
  | none, _ => .error (.unknown argument)
  | some (.setting setting), some value =>
    (options.give setting value).map fun options => .more options none
  | some (.setting setting), none => .ok (.more options (some setting))
  | some _, some _ => .error (.unexpectedValue argument)
  | some (.switch switch), none => (options.turnOn switch).map fun options => .more options none
  | some .version, none => .ok (.done .version)
  | some .help, none => .ok (.done .help)

/-- Reads the first of a cluster of short options.  The rest of the cluster is the
value of an option that takes one. -/
def readShort (options : Options) (argument : String) : List Char → Except UsageError Progress
  | [] => .ok (.more options none)
  | c :: rest =>
    match OptionKind.ofShortName c, rest with
    | some (.setting setting), [] => .ok (.more options (some setting))
    | some (.setting setting), '=' :: value | some (.setting setting), value =>
      (options.give setting (String.ofList value)).map fun options => .more options none
    | some .version, _ => .ok (.done .version)
    | some .help, _ => .ok (.done .help)
    | _, _ => .error (.unknown argument)

/-- Splits an argument at its first equals sign. -/
def splitEquals (text : List Char) : String × Option String :=
  let name := String.ofList (text.takeWhile (· != '='))
  match text.dropWhile (· != '=') with
  | [] => (name, none)
  | _ :: value => (name, some (String.ofList value))

/-- Reads the rest of the arguments, while an option may wait for its value. -/
def readArguments (options : Options) (waiting : Option Setting) :
    List String → Except UsageError Request
  | [] => (options.giveDefault waiting).bind Options.request
  | argument :: arguments =>
    match argument.toList with
    | '-' :: '-' :: long =>
      match options.giveDefault waiting with
      | .error error => .error error
      | .ok options =>
        if long = [] then
          Options.request { options with input := options.input ++ arguments }
        else
          let (name, value) := splitEquals long
          match readLong options argument name value with
          | .error error => .error error
          | .ok (.done request) => .ok request
          | .ok (.more options waiting) => readArguments options waiting arguments
    | '-' :: c :: cluster =>
      match options.giveDefault waiting with
      | .error error => .error error
      | .ok options =>
        match readShort options argument (c :: cluster) with
        | .error error => .error error
        | .ok (.done request) => .ok request
        | .ok (.more options waiting) => readArguments options waiting arguments
    | _ =>
      match waiting with
      | some setting =>
        match options.give setting argument with
        | .error error => .error error
        | .ok options => readArguments options none arguments
      | none => readArguments { options with input := options.input ++ [argument] } none arguments

/-- What a list of arguments asks for, or why it is refused. -/
def Request.ofArguments (arguments : List String) : Except UsageError Request :=
  readArguments {} none arguments

end LiteralLogic.CommandLine
