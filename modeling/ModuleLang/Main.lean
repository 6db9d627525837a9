import ModuleLang.CommandLine.Run

/-!
# `Main` — the program

Reads the named file or the standard input, prints what `CommandLine.run` answers, and exits with its
code. Everything that is decided is decided there.
-/

namespace ModuleLang

open CommandLine (ReadError)

/-- Adds the bytes of a stream, up to its end, to those that were read. -/
partial def readToEnd (stream : IO.FS.Stream) (bytes : ByteArray) : IO ByteArray := do
  let block ← stream.read 65536
  if block.isEmpty then return bytes else readToEnd stream (bytes ++ block)

/-- Why the system could not read a file. -/
def readErrorOf : IO.Error → ReadError
  | .noFileOrDirectory .. => .missing
  | .inappropriateType _ 21 _ => .directory
  | .inappropriateType _ 20 _ => .notDirectory
  | .invalidArgument _ 36 _ => .nameTooLong
  | error => .other (toString error)

/-- The text of the named input. -/
def readInput (name : String) : IO (Except ReadError String) := do
  try
    let bytes ← if name = "-" then readToEnd (← IO.getStdin) .empty else IO.FS.readBinFile name
    return CommandLine.decode bytes
  catch error => return .error (readErrorOf error)

end ModuleLang

/-- The program. -/
def main (arguments : List String) : IO UInt32 := do
  let outcome ← ModuleLang.CommandLine.run ModuleLang.readInput arguments
  (← IO.getStdout).putStr outcome.stdout
  (← IO.getStderr).putStr outcome.stderr
  return outcome.exit
