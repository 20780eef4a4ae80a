import Monkey.Arena.Collect
import Monkey.Console.Banner
import Monkey.Console.Output
import Monkey.Evaluation.Basic
import Monkey.Program.Parser
import Monkey.Text.Blank
import Monkey.Text.Line

/-!
# Console

A console answers program texts with the value of each, with the error that it ends in, or with
what is wrong with the text. All texts run in one frame of one session, so that each finds the
bindings of those before it. An interactive console takes a text a line, after a prompt, until
the input ends or a line says `exit`.
-/

namespace Monkey

open Printing

/-- The session of a console and the frame that its programs run in. -/
structure Console where
  arena : Arena
  scope : FrameId

namespace Console

def start : Console :=
  let (scope, arena) := Arena.start 0
  ⟨arena, scope⟩

def prompt : String := ">> "

def exitLine : List Char := "exit".toList

def printDiagnostics (diagnostics : List Diagnostic) : Printing Unit := do
  print banner
  diagnostics.forM fun diagnostic => print ("\t" ++ diagnostic.message ++ "\n")

/-- Prints what a program came to; null is not shown. -/
def printOutcome : Except EvalError Value → Printing Unit
  | .ok .null => return
  | .ok value => print (value.inspect ++ "\n")
  | .error error => print ("ERROR: " ++ error.message ++ "\n")

/-- Answers a program text; a text with something wrong is not run. -/
def respond (source : String) (console : Console) : Printing Console := do
  let reading := Program.ofSource source
  if reading.accepted then
    let (outcome, arena) := reading.program.evaluate console.scope console.arena
    printOutcome outcome
    return { console with arena := arena }
  else
    printDiagnostics reading.diagnostics
    return console

/-- Answers a line of input; nothing is left to do after the line that ends the console. -/
def readLine (line : List UInt8) (console : Console) : Printing (Option Console) :=
  match String.fromUTF8? ⟨line.toArray⟩ with
  | none => throw .unreadable
  | some text =>
      if Blank.trim text.toList = exitLine then
        return none
      else
        some <$> console.respond text

/-- Answers lines of input, each after a prompt; a last prompt meets the end of the input. -/
def readLines : List (List UInt8) → Console → Printing Unit
  | [], _ => print prompt
  | line :: rest, console => do
      print prompt
      match ← console.readLine line with
      | none => return
      | some console => readLines rest console

def run (input : List UInt8) : Printing Unit :=
  start.readLines (Line.split input)

def runSource (source : String) : Printing Unit := do
  let _ ← start.respond source

end Console

end Monkey
