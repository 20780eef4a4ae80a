import Monkey.Command

/-!
# The command

Connects the command line to the standard streams and to files. With an argument the file is
read as a whole; without one each line of the standard input is answered before the next one is
read.
-/

namespace Monkey

/-- Why a file could not be read, from what the system says. -/
def ReadFailure.ofError : IO.Error → ReadFailure
  | .noFileOrDirectory .. => .missing
  | .inappropriateType .. => .directory
  | error => .other (toString error)

/-- Reads the bytes of a file. -/
def Command.readFile (path : String) : IO (Except ReadFailure ByteArray) := do
  try
    return .ok (← IO.FS.readBinFile path)
  catch error =>
    return .error (.ofError error)

/-- Reads up to the end of a line; nothing is left at the end of the input. -/
partial def Command.readLine (input : IO.FS.Stream) (line : ByteArray) : IO ByteArray := do
  let bytes ← input.read 1
  let line := line ++ bytes
  if bytes.isEmpty || bytes.data.contains Line.feed then
    return line
  else
    Command.readLine input line

/-- Prints what a computation writes, and says whether it failed. -/
def Command.perform (output : IO.FS.Stream) {Result : Type} (printing : Printing Result) :
    IO (Except ConsoleError Result) := do
  let (outcome, written) := printing (Output.empty none)
  output.write written.written
  output.flush
  return outcome

/-- Answers the standard input line by line. -/
partial def Command.converse (input output : IO.FS.Stream) (console : Console) :
    IO (Except ConsoleError Unit) := do
  let _ ← Command.perform output (Printing.print Console.prompt)
  match Line.split (← Command.readLine input ByteArray.empty).data.toList with
  | [] => return .ok ()
  | line :: _ =>
      match ← Command.perform output (console.readLine line) with
      | .error error => return .error error
      | .ok none => return .ok ()
      | .ok (some console) => Command.converse input output console

/-- Leaves what a run of the command leaves. -/
def Command.leave (command : Command) : IO UInt32 := do
  (← IO.getStdout).write command.stdout
  (← IO.getStdout).flush
  (← IO.getStderr).putStr command.stderr
  return command.code.toUInt32

/-- Runs the command on its arguments. -/
def Command.execute : List String → IO UInt32
  | path :: _ => do Command.leave (Command.runFile path (← Command.readFile path))
  | [] => do
      let output ← IO.getStdout
      let _ ← Command.perform output (Printing.print Command.greeting)
      match ← Command.converse (← IO.getStdin) output Console.start with
      | .ok () => return 0
      | .error error => Command.leave (Command.stopped ByteArray.empty error.message)

end Monkey

/-- Runs the command. -/
def main (arguments : List String) : IO UInt32 :=
  Monkey.Command.execute arguments
