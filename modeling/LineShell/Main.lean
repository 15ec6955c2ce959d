import LineShell.Invocation
/-!
# Running the program

Reads the whole input, runs the shell on a small machine, and writes what came of it.
-/

namespace LineShell

/-- Reads a stream to its end. -/
partial def readAll (stream : IO.FS.Stream) (read : ByteArray) : IO ByteArray := do
  let more ← stream.read 65536
  if more.isEmpty then return read else readAll stream (read ++ more)

end LineShell

open LineShell

/-- The program's entry. -/
def main (args : List String) : IO UInt32 := do
  let input ← readAll (← IO.getStdin) ByteArray.empty
  let completion := Invocation.run
    { args, logFilter := ← IO.getEnv LogFilter.variableName, input := [.piece input.toList]
      machine := .standard [] false, dir := [] }
  let out ← IO.getStdout
  let err ← IO.getStderr
  out.write ⟨completion.out.toArray⟩
  out.flush
  for note in completion.log do err.putStrLn note.text
  err.write ⟨completion.err.toArray⟩
  return completion.status.toUInt32
