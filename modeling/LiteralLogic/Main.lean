import LiteralLogic.CommandLine.Host

/-!
# The program

Runs the command on the system: reads files and the input, measures time and prints
what the command answers.  The exit code is zero for success and two for everything
that went wrong.
-/

namespace LiteralLogic.CommandLine

/-- A duration in the largest unit in which it is at least one, without trailing
zeros. -/
def durationText (nanoseconds : Nat) : String :=
  let (unit, digits, name) :=
    if nanoseconds ≥ 1000000000 then (1000000000, 9, "s")
    else if nanoseconds ≥ 1000000 then (1000000, 6, "ms")
    else if nanoseconds ≥ 1000 then (1000, 3, "µs")
    else (1, 0, "ns")
  let fraction := (toString (nanoseconds % unit)).toList
  let padded := List.replicate (digits - fraction.length) '0' ++ fraction
  let significant := (padded.reverse.dropWhile (· == '0')).reverse
  let shown := if digits = 0 ∨ significant.isEmpty then "" else "." ++ String.ofList significant
  toString (nanoseconds / unit) ++ shown ++ name

/-- The number of a system error, which some systems report negated. -/
def errorNumber (code : UInt32) : Nat := min code.toNat (0 - code).toNat

/-- Why reading failed. -/
def readFailure (error : IO.Error) : ReadFailure :=
  match error with
  | .noFileOrDirectory .. => .notFound
  | .permissionDenied .. => .permissionDenied
  | .inappropriateType _ code _ =>
    if errorNumber code = 20 then .notDirectory else .isDirectory
  | .invalidArgument _ code _ =>
    if errorNumber code = 36 then .nameTooLong else .other (toString error)
  | _ => .other (toString error)

/-- The bytes that an action reads, or why it failed. -/
def attempt (action : IO ByteArray) : IO (Except ReadFailure ByteArray) := do
  try
    return .ok (← action)
  catch error => return .error (readFailure error)

/-- The bytes of a stream from its current place on, behind those read before. -/
partial def readAll (stream : IO.FS.Stream) (read : ByteArray) : IO ByteArray := do
  let chunk ← stream.read 65536
  if chunk.isEmpty then return read else readAll stream (read ++ chunk)

/-- The system that the program runs on. -/
def system : Host IO where
  terminal := do (← IO.getStdout).isTty
  readFile path := attempt (IO.FS.readBinFile path)
  readInput := attempt do readAll (← IO.getStdin) ByteArray.empty
  timed compute := do
    let start ← IO.monoNanosNow
    let result ← IO.lazyPure compute
    let finish ← IO.monoNanosNow
    return (result, finish - start)
  durationText := durationText

/-- Tells the user what went wrong. -/
def fail (message : String) : IO UInt32 := do
  IO.eprintln message
  return 2

end LiteralLogic.CommandLine

open LiteralLogic.CommandLine in
/-- The command. -/
def main (arguments : List String) : IO UInt32 := do
  match Request.ofArguments arguments with
  | .error error => fail error.message
  | .ok request =>
    match ← request.answer system with
    | .error message => fail message
    | .ok text =>
      IO.println text
      return 0
