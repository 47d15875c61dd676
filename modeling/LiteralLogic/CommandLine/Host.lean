import LiteralLogic.CommandLine

/-!
# The host of the command

What the command does is said once, against a host: the few things that it needs of
the system it runs on.  On a disk and in memory it is the same definition, with another
host.  The condition file is read before the conditions are compiled, and the input
only if it was not given and the conditions compile.
-/

namespace LiteralLogic.CommandLine

/-- What the command needs of the system it runs on. -/
structure Host (m : Type → Type) where
  /-- Is the output shown on a terminal? -/
  terminal : m Bool
  /-- The bytes of the file at a path. -/
  readFile : String → m (Except ReadFailure ByteArray)
  /-- The bytes of the input, from its current place to its end. -/
  readInput : m (Except ReadFailure ByteArray)
  /-- A result, and how many nanoseconds its computation took. -/
  timed : {α : Type} → (Unit → α) → m (α × Nat)
  /-- The words for a number of nanoseconds. -/
  durationText : Nat → String

variable {m : Type → Type} [Monad m]

/-- The text of the condition file, if the options name one, or what the user is told
instead. -/
def Options.fileText (options : Options) (host : Host m) :
    m (Except String (Option String)) := do
  match options.file with
  | none => return .ok none
  | some path =>
    match (← host.readFile path).bind decodeText with
    | .ok text => return .ok (some text)
    | .error failure => return .error (fileError path failure)

/-- What is printed of a match with an input. -/
def Options.search (options : Options) (host : Host m) (matcher : Matcher) (input : String) :
    m String := do
  let (present, scan) ← host.timed fun _ => matcher.prefilter.scan input
  let (walk, traversal) ← host.timed fun _ => matcher.tree.walk present
  let run : Run :=
    { indices := walk.conditions, literalsPresent := present.size
      nodesVisited := walk.nodesVisited }
  let timing : Timing :=
    { total := host.durationText (scan + traversal), scan := host.durationText scan
      traversal := host.durationText traversal }
  return matchReport options (← host.terminal) matcher input run timing

/-- What is printed if the options are followed, or what the user is told instead. -/
def Options.answer (options : Options) (host : Host m) : m (Except String String) := do
  match ← options.fileText host with
  | .error message => return .error message
  | .ok fileText =>
    match options.plan (← host.terminal) fileText with
    | .error message => return .error message
    | .ok (.print text) => return .ok text
    | .ok (.search matcher (some input)) => return .ok (← options.search host matcher input)
    | .ok (.search matcher none) =>
      match (← host.readInput).bind decodeText with
      | .error failure => return .error (inputError failure)
      | .ok text => return .ok (← options.search host matcher (trimLineEnd text))

/-- What is printed if a request is met, or what the user is told instead. -/
def Request.answer (host : Host m) : Request → m (Except String String)
  | .version => return .ok versionText
  | .help => return .ok helpText
  | .run options => options.answer host

end LiteralLogic.CommandLine
