import Ecmascript.Command

/-!
# The program

The command line on the files and streams of the system.
-/

set_option autoImplicit false

namespace Ecmascript.Main

/-- Reads a stream to its end. -/
partial def readAll (stream : IO.FS.Stream) (bytes : ByteArray) : IO ByteArray := do
  let chunk ← stream.read 65536
  if chunk.isEmpty then return bytes else readAll stream (bytes ++ chunk)

/-- Reads text, or none if reading fails or the bytes are not text. -/
def readText (read : IO ByteArray) : IO (Option String) := do
  try
    return String.fromUTF8? (← read)
  catch _ => return none

/-- The files of the system and its standard input. -/
def inputs : Command.Inputs IO where
  file path := readText (IO.FS.readBinFile path)
  standardInput := do readText (readAll (← IO.getStdin) ByteArray.empty)

end Ecmascript.Main

/-- Runs the command on the arguments of the program. -/
def main (arguments : List String) : IO UInt32 := do
  let outcome ← Ecmascript.Command.run Ecmascript.Main.inputs arguments
  IO.print outcome.standardOutput
  IO.eprint outcome.standardError
  return outcome.exitCode.toUInt32
