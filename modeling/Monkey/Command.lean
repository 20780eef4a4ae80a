import Monkey.Console.Basic

/-!
# Command line

Without arguments the command greets and runs an interactive console on the standard input; with
an argument it runs the file of that name. Further arguments mean nothing.
-/

namespace Monkey

/-- Why a file cannot be read as a program text. -/
inductive ReadFailure where
  | missing
  | directory
  | notText
  | other (reason : String)
  deriving DecidableEq

def ReadFailure.message : ReadFailure → String
  | missing => "No such file or directory (os error 2)"
  | directory => "Is a directory (os error 21)"
  | notText => "stream did not contain valid UTF-8"
  | other reason => reason

/-- What a run of the command leaves: its two outputs and its exit code. -/
structure Command where
  stdout : ByteArray
  stderr : String
  code : UInt8

namespace Command

def greeting : String :=
  "Hello! This is the Monkey programming language!\nFeel free to type in commands\n"

/-- What a run leaves that stops with an error. -/
def stopped (written : ByteArray) (message : String) : Command :=
  ⟨written, message ++ "\n", 1⟩

/-- What a run leaves that printed on a standard output without limit. -/
def ofPrinting (printing : Printing Unit) : Command :=
  match printing (Output.empty none) with
  | (.ok (), output) => ⟨output.written, "", 0⟩
  | (.error error, output) => stopped output.written error.message

/-- Runs a file, given by its name and what reading it came to. -/
def runFile (path : String) (contents : Except ReadFailure ByteArray) : Command :=
  let source :=
    contents.bind fun bytes =>
      match String.fromUTF8? bytes with
      | some source => .ok source
      | none => .error .notText
  match source with
  | .ok source => ofPrinting (Console.runSource source)
  | .error failure =>
      stopped ByteArray.empty ("could not read " ++ path ++ ": " ++ failure.message)

/-- Runs the command on its arguments, with a way to read files and a standard input. -/
def run (arguments : List String) (readFile : String → Except ReadFailure ByteArray)
    (input : List UInt8) : Command :=
  match arguments with
  | [] =>
      ofPrinting do
        Printing.print greeting
        Console.run input
  | path :: _ => runFile path (readFile path)

end Command

end Monkey
