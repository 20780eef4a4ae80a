/-!
# Output

A device that takes bytes until it is full. Writing on a full device fails, and a text that does
not fit is written as far as there is room.
-/

namespace Monkey

/-- Why a console stops: a line of its input is no text, or its output takes no more. -/
inductive ConsoleError where
  | unreadable
  | unwritable
  deriving DecidableEq

def ConsoleError.message : ConsoleError → String
  | unreadable => "i/o error: stream did not contain valid UTF-8"
  | unwritable => "i/o error: failed to write whole buffer"

/-- The bytes written so far, and how many more there is room for, unless that is any number. -/
structure Output where
  written : ByteArray
  room : Option Nat

namespace Output

def empty (room : Option Nat) : Output :=
  ⟨ByteArray.empty, room⟩

/-- Writes bytes as far as there is room, and fails if that is not far enough. -/
def write (bytes : ByteArray) (output : Output) : Except ConsoleError Unit × Output :=
  match output.room with
  | none => (.ok (), { output with written := output.written ++ bytes })
  | some room =>
      if bytes.size ≤ room then
        (.ok (), ⟨output.written ++ bytes, some (room - bytes.size)⟩)
      else
        (.error .unwritable, ⟨output.written ++ bytes.extract 0 room, some 0⟩)

end Output

/-- A computation that writes output and may fail. -/
abbrev Printing := ExceptT ConsoleError (StateM Output)

def Printing.print (text : String) : Printing Unit :=
  Output.write text.toUTF8

end Monkey
