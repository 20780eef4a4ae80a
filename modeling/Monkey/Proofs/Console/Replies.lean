import Monkey.Console.Basic
import Monkey.Proofs.Printing.Lexing

/-!
# Replies of a console

What a console prints for a program text is one text, and what is left is a console again: a console
is a function, and printing only hands on what it says. So a dialogue is the list of its replies,
one to each line, and the output of a run is their transcript with the prompts in between. This
holds of a device without limits as of one that is full in the middle of a reply.
-/

namespace Monkey

/-- Bytes are written as a whole or piece by piece. -/
theorem Output.write_append (left right : ByteArray) (output : Output) :
    output.write (left ++ right) =
      match output.write left with
      | (.ok _, later) => later.write right
      | (.error error, later) => (.error error, later) := by
  rcases output with ⟨written, _ | room⟩
  · simp [write, ByteArray.append_assoc]
  · by_cases first : left.size ≤ room
    · by_cases both : left.size + right.size ≤ room
      · have second : right.size ≤ room - left.size := Nat.le_sub_of_add_le' both
        simp [write, first, both, second, ByteArray.append_assoc, Nat.sub_sub]
      · have second : ¬right.size ≤ room - left.size := by omega
        have whole : left.extract 0 room = left :=
          ByteArray.ext (by rw [ByteArray.data_extract, Array.extract_eq_self_of_le first])
        simp [write, first, both, second, whole, ByteArray.append_assoc, ByteArray.extract_append]
    · have both : ¬left.size + right.size ≤ room := by omega
      have none : room - left.size = 0 := by omega
      simp [write, first, both, ByteArray.extract_append, none]

namespace Printing

theorem run_bind {Result Next : Type} (first : Printing Result) (next : Result → Printing Next)
    (output : Output) :
    (first >>= next) output =
      match first output with
      | (.ok result, later) => next result later
      | (.error error, later) => (.error error, later) := by
  simp only [bind, ExceptT.bind, ExceptT.mk, StateT.bind]
  rcases first output with ⟨_ | _, _⟩ <;> rfl

theorem print_empty : print "" = pure () := by
  funext output
  rcases output with ⟨written, _ | room⟩
  · simp [print, Output.write, pure, ExceptT.pure]; rfl
  · simp [print, Output.write]; rfl

theorem print_append (left right : String) :
    print (left ++ right) = (do print left; print right) := by
  have bytes : (left ++ right).toUTF8 = left.toUTF8 ++ right.toUTF8 := String.toByteArray_append
  funext output
  rw [run_bind, print, bytes, Output.write_append]
  unfold print
  rcases Output.write left.toUTF8 output with ⟨_ | _, _⟩ <;> rfl

end Printing

namespace Console

open Printing

/-! ## Answers -/

/-- The text that says what is wrong with a text. -/
def diagnosticsText (diagnostics : List Diagnostic) : String :=
  banner ++ String.join (diagnostics.map fun diagnostic => "\t" ++ diagnostic.message ++ "\n")

/-- The text that says what a program came to. -/
def outcomeText : Except EvalError Value → String
  | .ok .null => ""
  | .ok value => value.inspect ++ "\n"
  | .error error => "ERROR: " ++ error.message ++ "\n"

/-- What a console says to a program text, and the console after it. -/
def answer (source : String) (console : Console) : String × Console :=
  let reading := Program.ofSource source
  if reading.accepted then
    let ended := reading.program.evaluate console.scope console.arena
    (outcomeText ended.1, { console with arena := ended.2 })
  else
    (diagnosticsText reading.diagnostics, console)

theorem printOutcome_eq (outcome : Except EvalError Value) :
    printOutcome outcome = print (outcomeText outcome) := by
  cases outcome with
  | error error => rfl
  | ok value =>
      cases value with
      | null => exact print_empty.symm
      | _ => rfl

theorem printDiagnostics_eq (diagnostics : List Diagnostic) :
    printDiagnostics diagnostics = print (diagnosticsText diagnostics) := by
  have lines : (diagnostics.forM fun diagnostic => print ("\t" ++ diagnostic.message ++ "\n")) =
      print (String.join
        (diagnostics.map fun diagnostic => "\t" ++ diagnostic.message ++ "\n")) := by
    induction diagnostics with
    | nil => exact print_empty.symm
    | cons diagnostic rest ih =>
        rw [List.map_cons, String.join_cons, print_append, ← ih]
        rfl
  rw [printDiagnostics, diagnosticsText, print_append, lines]

/-- A console prints what it says, and nothing else comes of a text. -/
theorem respond_eq (source : String) (console : Console) :
    console.respond source =
      (do print (console.answer source).1; return (console.answer source).2) := by
  unfold respond answer
  dsimp only
  split
  · rw [← printOutcome_eq]
    rfl
  · rw [printDiagnostics_eq]

/-! ## Dialogues -/

/-- What becomes of a line: a text is said to it, or it ends the dialogue, or it comes after the
end. -/
inductive Reply where
  | text (text : String)
  | ended
  | unread
  deriving DecidableEq

/-- Whether a line ends the dialogue. -/
def isExit (line : String) : Prop :=
  Blank.trim line.toList = exitLine

instance : DecidablePred isExit :=
  fun line => inferInstanceAs (Decidable (Blank.trim line.toList = exitLine))

/-- What a console replies to lines one by one. -/
def replies : List String → Console → List Reply
  | [], _ => []
  | line :: rest, console =>
      if isExit line then
        .ended :: rest.map fun _ => .unread
      else
        .text (console.answer line).1 :: replies rest (console.answer line).2

/-- The output that goes with replies: a prompt before each line that is read, and one more where
the input ends. -/
def transcript : List Reply → String
  | [] => prompt
  | .text text :: rest => prompt ++ (text ++ transcript rest)
  | .ended :: _ => prompt
  | .unread :: _ => ""

theorem readLine_of_readable {line : List UInt8} {text : String}
    (readable : String.fromUTF8? ⟨line.toArray⟩ = some text) (console : Console) :
    console.readLine line =
      if isExit text then return none else some <$> console.respond text := by
  rw [readLine, readable]
  rfl

theorem readLine_eq (line : String) (console : Console) :
    console.readLine (sourceBytes line) =
      if isExit line then return none else some <$> console.respond line :=
  readLine_of_readable (fromUTF8?_sourceBytes line) console

theorem readLines_eq (lines : List String) (console : Console) :
    console.readLines (lines.map sourceBytes) = print (transcript (console.replies lines)) := by
  induction lines generalizing console with
  | nil => rfl
  | cons line rest ih =>
      rw [List.map_cons, readLines, readLine_eq, replies]
      split
      · simp [transcript]
      · rw [transcript, print_append, print_append, ← ih, respond_eq]
        simp

/-- A run prints the transcript of what the console replies to the lines of its input. -/
theorem run_eq {input : List UInt8} {lines : List String}
    (split : Line.split input = lines.map sourceBytes) :
    run input = print (transcript (start.replies lines)) := by
  rw [run, split, readLines_eq]

/-- A program text that is run on its own prints what a new console says to it. -/
theorem runSource_eq (source : String) : runSource source = print (start.answer source).1 := by
  rw [runSource, respond_eq]
  simp

end Console

end Monkey
