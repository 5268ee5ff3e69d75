import LogFilter.Command.Run

/-!
# Command line program

Reads the files and the standard input that a run asks for, runs, and writes what the run has
written.
-/

namespace LogFilter

/-- The reason that the operating system gives. -/
def fileErrorOf : IO.Error → FileError
  | .noFileOrDirectory .. => .notFound
  | .inappropriateType .. => .notDirectory
  | e => .other (toString e).toList

/-- Reads one of the files of a run. -/
def readFile (path : Text) : IO (Except FileError ByteArray) := do
  let name := String.ofList path
  try
    return .ok (← IO.FS.readBinFile name)
  catch e =>
    return .error (fileErrorOf e)

/-- Reads a stream to its end. -/
partial def readStream (stream : IO.FS.Stream) (before : ByteArray) : IO ByteArray := do
  let bytes ← stream.read 65536
  if bytes.isEmpty then return before else readStream stream (before ++ bytes)

/-- Whether a run reads the standard input. -/
def readsInput (i : Invocation) : Bool :=
  i.command = .stringify none

/-- Whether a variable of the environment is on, if it is set. Zero is off. -/
def switch? (name : String) : IO (Option Bool) := do
  return (← IO.getEnv name).map (· ≠ "0")

/-- Whether the environment wants colors, or leaves it to the terminal. -/
def wantsColor : IO Bool := do
  if (← switch? "CLICOLOR_FORCE") = some true then return true
  if (← switch? "NO_COLOR").isSome then return false
  return (← switch? "CLICOLOR") ≠ some false && (← (← IO.getStdout).isTty)

/-- Everything that a run reads. -/
def surroundingsOf (i : Invocation) : IO Surroundings := do
  let contents ← i.files.mapM fun path => return (path, ← readFile path)
  let input ← if readsInput i then readStream (← IO.getStdin) .empty else pure .empty
  return ⟨fun path => (contents.lookup path).getD (.error .notFound), input, ← wantsColor⟩

/-- Writes to the stream that a channel stands for. -/
def Write.perform (w : Write) : IO Unit := do
  let stream ← match w.channel with
    | .output => IO.getStdout
    | .messages => IO.getStderr
  stream.putStr (String.ofList w.text)

end LogFilter

open LogFilter

def main (args : List String) : IO UInt32 := do
  let environment := (← IO.getEnv "LOGS_QUERY_CONFIG").map String.toList
  let args := args.map String.toList
  let surroundings ← match Invocation.ofArguments environment args with
    | .ok i => surroundingsOf i
    | .error _ => pure ⟨fun _ => .error .notFound, .empty, false⟩
  let outcome := run environment args surroundings
  outcome.writes.forM Write.perform
  return outcome.exitCode.toUInt32
