import Monkey.Proofs.Console.Replies

/-!
# Outputs that are cut

A console hands on what it says and learns nothing from its output but that it is full. So all that
a run prints is one text, which does not depend on the device, and it comes to its outcome once that
text is written. A device with a limit cuts the text where it is full, in the middle of a prompt or
of a reply as the case may be, and the run ends with that.
-/

namespace Monkey

namespace Printing

variable {Result Next : Type}

/-- Whether a computation prints a text, on whatever device, and then comes to an outcome. -/
def Prints (printing : Printing Result) (text : String)
    (outcome : Except ConsoleError Result) : Prop :=
  printing = do print text; ExceptT.mk (pure outcome)

namespace Prints

theorem print (text : String) : Prints (Printing.print text) text (.ok ()) :=
  (bind_pure _).symm

theorem pure (result : Result) : Prints (Pure.pure result) "" (.ok result) := by
  rw [Prints, print_empty, pure_bind]
  rfl

theorem throw (error : ConsoleError) :
    (MonadExcept.throw error : Printing Result).Prints "" (.error error) := by
  rw [Prints, print_empty, pure_bind]
  rfl

variable {first : Printing Result} {next : Result → Printing Next} {text text' : String}

/-- What comes after a computation that succeeds is printed after what that one prints. -/
theorem bind {result : Result} {outcome : Except ConsoleError Next}
    (prints : first.Prints text (.ok result)) (prints' : (next result).Prints text' outcome) :
    (first >>= next).Prints (text ++ text') outcome := by
  rw [Prints] at *
  rw [print_append, bind_assoc, ← prints', prints, bind_assoc]
  rfl

theorem bind_error {error : ConsoleError} (prints : first.Prints text (.error error)) :
    (first >>= next).Prints text (.error error) := by
  rw [Prints] at *
  rw [prints, bind_assoc]
  rfl

theorem map {result : Result} (prints : first.Prints text (.ok result)) (f : Result → Next) :
    (f <$> first).Prints text (.ok (f result)) := by
  have mapped : (first >>= fun result => Pure.pure (f result)).Prints (text ++ "")
      (.ok (f result)) := prints.bind (Prints.pure (f result))
  rwa [String.append_empty, bind_pure_comp] at mapped

end Prints

/-- Whether a computation prints on a device with a limit as much of its text as that has room for,
fails just if that is not all, and else comes to what it comes to without a limit. -/
structure IsCutAt (printing : Printing Unit) (limit : Nat) : Prop where
  written : (printing (Output.empty (some limit))).2.written =
    (printing (Output.empty none)).2.written.extract 0
      (min limit (printing (Output.empty none)).2.written.size)
  outcome : (printing (Output.empty (some limit))).1 =
    if limit < (printing (Output.empty none)).2.written.size then .error .unwritable
    else (printing (Output.empty none)).1

section Apply

variable {printing : Printing Unit} {text : String} {outcome : Except ConsoleError Unit}
  (prints : printing.Prints text outcome)

include prints

theorem Prints.apply_unlimited :
    printing (Output.empty none) = (outcome, ⟨text.toUTF8, none⟩) := by
  rw [prints, run_bind, Printing.print, Output.write]
  simp only [Output.empty, ByteArray.empty_append]
  rfl

theorem Prints.apply_limited (limit : Nat) :
    printing (Output.empty (some limit)) =
      if text.toUTF8.size ≤ limit then
        (outcome, ⟨text.toUTF8, some (limit - text.toUTF8.size)⟩)
      else
        (.error .unwritable, ⟨text.toUTF8.extract 0 limit, some 0⟩) := by
  rw [prints, run_bind, Printing.print, Output.write]
  simp only [Output.empty, ByteArray.empty_append]
  by_cases fits : text.toUTF8.size ≤ limit
  · simp only [if_pos fits]
    rfl
  · simp only [if_neg fits]

/-- What prints one text, whatever the device, is cut at any limit. -/
theorem Prints.isCutAt (limit : Nat) : printing.IsCutAt limit := by
  have whole := prints.apply_unlimited
  have cut := prints.apply_limited limit
  generalize text.toUTF8 = bytes at whole cut
  split at cut
  · next fits =>
      have all : bytes.extract 0 (min limit bytes.size) = bytes := by
        rw [Nat.min_eq_right fits]
        exact ByteArray.extract_zero_size
      refine ⟨?_, ?_⟩
      · rw [whole, cut, all]
      · rw [whole, cut, if_neg (Nat.not_lt.mpr fits)]
  · next full =>
      have less : limit < bytes.size := Nat.lt_of_not_le full
      refine ⟨?_, ?_⟩
      · rw [whole, cut, Nat.min_eq_left (Nat.le_of_lt less)]
      · rw [whole, cut, if_pos less]

end Apply

end Printing

namespace Console

open Printing

/-- What lines say, up to the first one that is no text. -/
def readableTexts : List (List UInt8) → List String
  | [] => []
  | line :: rest =>
      match String.fromUTF8? ⟨line.toArray⟩ with
      | none => []
      | some text => text :: readableTexts rest

theorem readableTexts_cons {line : List UInt8} {rest : List (List UInt8)} {text : String}
    (readable : String.fromUTF8? ⟨line.toArray⟩ = some text) :
    readableTexts (line :: rest) = text :: readableTexts rest := by
  rw [readableTexts, readable]

theorem readableTexts_of_unreadable {line : List UInt8} {rest : List (List UInt8)}
    (unreadable : String.fromUTF8? ⟨line.toArray⟩ = none) :
    readableTexts (line :: rest) = [] := by
  rw [readableTexts, unreadable]

/-- Whether reading lines one after the other comes to one that is no text. -/
inductive ComesToUnreadable : List (List UInt8) → Prop where
  | here {line : List UInt8} {rest : List (List UInt8)}
      (unreadable : String.fromUTF8? ⟨line.toArray⟩ = none) : ComesToUnreadable (line :: rest)
  | later {line : List UInt8} {rest : List (List UInt8)} {text : String}
      (readable : String.fromUTF8? ⟨line.toArray⟩ = some text) (goesOn : ¬isExit text)
      (later : ComesToUnreadable rest) : ComesToUnreadable (line :: rest)

theorem comesToUnreadable_cons {line : List UInt8} {rest : List (List UInt8)} {text : String}
    (readable : String.fromUTF8? ⟨line.toArray⟩ = some text) :
    ComesToUnreadable (line :: rest) ↔ ¬isExit text ∧ ComesToUnreadable rest := by
  constructor
  · intro comes
    cases comes with
    | here unreadable => cases readable.symm.trans unreadable
    | later readable' goesOn later =>
        cases readable.symm.trans readable'
        exact ⟨goesOn, later⟩
  · rintro ⟨goesOn, later⟩
    exact .later readable goesOn later

theorem prints_respond (source : String) (console : Console) :
    (console.respond source).Prints (console.answer source).1
      (.ok (console.answer source).2) :=
  respond_eq source console

section Line

variable {line : List UInt8} {rest : List (List UInt8)} {text : String}

/-- The prompt comes before a line is read, so it is printed also where that fails. -/
theorem prints_unreadable (unreadable : String.fromUTF8? ⟨line.toArray⟩ = none)
    (console : Console) :
    (console.readLines (line :: rest)).Prints prompt (.error .unreadable) := by
  have read : (console.readLine line).Prints "" (.error .unreadable) := by
    rw [readLine, unreadable]
    exact .throw .unreadable
  have printed : (console.readLines (line :: rest)).Prints (prompt ++ "") (.error .unreadable) :=
    (Prints.print prompt).bind read.bind_error
  rwa [String.append_empty] at printed

variable (readable : String.fromUTF8? ⟨line.toArray⟩ = some text)

include readable

theorem prints_exit (exits : isExit text) (console : Console) :
    (console.readLines (line :: rest)).Prints prompt (.ok ()) := by
  have ended : (console.readLine line).Prints "" (.ok none) := by
    rw [readLine_of_readable readable, if_pos exits]
    exact .pure none
  have printed : (console.readLines (line :: rest)).Prints (prompt ++ ("" ++ "")) (.ok ()) :=
    (Prints.print prompt).bind (ended.bind (.pure ()))
  rwa [String.append_empty, String.append_empty] at printed

theorem prints_reply (goesOn : ¬isExit text) {console : Console} {later : String}
    {outcome : Except ConsoleError Unit}
    (prints : ((console.answer text).2.readLines rest).Prints later outcome) :
    (console.readLines (line :: rest)).Prints (prompt ++ ((console.answer text).1 ++ later))
      outcome := by
  have replied : (console.readLine line).Prints (console.answer text).1
      (.ok (some (console.answer text).2)) := by
    rw [readLine_of_readable readable, if_neg goesOn]
    exact (prints_respond text console).map some
  exact (Prints.print prompt).bind (replied.bind prints)

end Line

/-- Reading lines prints the replies to those that are texts, whatever comes after them, and fails
just if it comes to a line that is none. -/
theorem prints_readLines (lines : List (List UInt8)) (console : Console) :
    ∃ outcome,
      (console.readLines lines).Prints (transcript (console.replies (readableTexts lines)))
        outcome ∧
      (outcome = .ok () ∧ ¬ComesToUnreadable lines ∨
        outcome = .error .unreadable ∧ ComesToUnreadable lines) := by
  induction lines generalizing console with
  | nil => exact ⟨.ok (), .print prompt, .inl ⟨rfl, nofun⟩⟩
  | cons line rest ih =>
      cases readable : String.fromUTF8? ⟨line.toArray⟩ with
      | none =>
          rw [readableTexts_of_unreadable readable]
          exact ⟨_, prints_unreadable readable console, .inr ⟨rfl, .here readable⟩⟩
      | some text =>
          rw [comesToUnreadable_cons readable, readableTexts_cons readable, replies]
          by_cases exits : isExit text
          · rw [if_pos exits]
            exact ⟨_, prints_exit readable exits console, .inl ⟨rfl, fun comes => comes.1 exits⟩⟩
          · rw [if_neg exits, transcript]
            rcases ih (console.answer text).2 with ⟨outcome, prints, ended⟩
            refine ⟨outcome, prints_reply readable exits prints, ?_⟩
            simpa [exits] using ended

/-- A limit on the output cuts the transcript of a run and changes nothing else. Without a limit all
replies are printed, and the run ends with success or at the first line that is no text, if it comes
to one. With a limit the run prints the same up to there. It fails with its output if the transcript
does not fit, else it ends as it does without a limit. So it is with a program text that is run on
its own, which always succeeds if there is room. -/
theorem run_isCutAt (limit : Nat) :
    (∀ input : List UInt8, (run input).IsCutAt limit ∧
      let whole := run input (Output.empty none)
      whole.2.written =
        (transcript (start.replies (readableTexts (Line.split input)))).toUTF8 ∧
      (whole.1 = .error .unreadable ↔ ComesToUnreadable (Line.split input)) ∧
      (whole.1 = .ok () ↔ ¬ComesToUnreadable (Line.split input))) ∧
    (∀ source : String, (runSource source).IsCutAt limit ∧
      let whole := runSource source (Output.empty none)
      whole.2.written = (start.answer source).1.toUTF8 ∧ whole.1 = .ok ()) ∧
    ConsoleError.unwritable.message = "i/o error: failed to write whole buffer" ∧
    ConsoleError.unreadable.message = "i/o error: stream did not contain valid UTF-8" := by
  refine ⟨fun input => ?_, fun source => ?_, rfl, rfl⟩
  · rcases prints_readLines (Line.split input) start with ⟨outcome, prints, ended⟩
    have printed : (run input).Prints _ outcome := prints
    have whole := printed.apply_unlimited
    refine ⟨printed.isCutAt limit, congrArg (·.2.written) whole, ?_⟩
    rw [whole]
    rcases ended with ⟨rfl, readable⟩ | ⟨rfl, comes⟩
    · simp [readable]
    · simp [comes]
  · have printed : (runSource source).Prints (start.answer source).1 (.ok ()) :=
      runSource_eq source ▸ .print _
    have whole := printed.apply_unlimited
    exact ⟨printed.isCutAt limit, congrArg (·.2.written) whole, congrArg Prod.fst whole⟩

end Console

end Monkey
