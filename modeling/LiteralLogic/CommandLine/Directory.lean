import LiteralLogic.CommandLine.Host

/-!
# A directory in memory

A directory holds files by name, and a path is followed name by name from it: `.` and
the empty name stay where they are, `..` leads to the directory above, and a file has
nothing below it.  Of the directories above nothing is known but that they exist.  A
name has at most 255 bytes and a path at most 4095.

`Directory.host` lets the command run on such a directory and a given input.
-/

namespace LiteralLogic.CommandLine

/-- The files of a directory, by name. -/
structure Directory where
  files : List (String × ByteArray)

/-- How far a path has led: into the directory it starts from, or above it. -/
inductive Place where
  | inside
  | above

namespace Directory

/-- The most bytes in the name of a file. -/
def nameLimit : Nat := 255

/-- The most bytes in a path. -/
def pathLimit : Nat := 4095

/-- The file that a list of names leads to from a place. -/
def follow (directory : Directory) : Place → List String → Except ReadFailure ByteArray
  | _, [] => .error .isDirectory
  | place, name :: names =>
    if name = "" ∨ name = "." then directory.follow place names
    else if name = ".." then directory.follow .above names
    else if name.utf8ByteSize > nameLimit then .error .nameTooLong
    else
      match place, directory.files.lookup name with
      | .inside, some bytes => if names.isEmpty then .ok bytes else .error .notDirectory
      | _, _ => .error .notFound

/-- The bytes of the file at a path. -/
def read (directory : Directory) (path : String) : Except ReadFailure ByteArray :=
  if path.utf8ByteSize > pathLimit then .error .nameTooLong
  else if path = "" then .error .notFound
  else directory.follow (if path.startsWith "/" then .above else .inside) (path.splitOn "/")

/-- The host of a command that finds its files in a directory and has the bytes of its
input before it.  No time passes on it. -/
def host (directory : Directory) (input : ByteArray) : Host Id where
  terminal := false
  readFile := directory.read
  readInput := .ok input
  timed compute := (compute (), 0)
  durationText nanoseconds := toString nanoseconds ++ "ns"

end Directory

end LiteralLogic.CommandLine
