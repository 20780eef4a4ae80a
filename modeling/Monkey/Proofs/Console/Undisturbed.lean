import Monkey.Proofs.Console.Replies
import Monkey.Proofs.Evaluation.Quiet

/-!
# Lines that leave no trace

A line that binds nothing, or cannot be read, may make and free any number of frames, but the lines
after it are answered as if it had not been there: the session that it leaves mirrors the one it
found, and consoles that mirror each other say the same to whatever line comes next.
-/

namespace Monkey

/-- Outcomes that agree up to closures that stand for each other are shown alike. -/
theorem Console.outcomeText_eq {pairs : Correspondence} {left right : Except EvalError Value}
    (related : Result.Related pairs.Values left right) :
    outcomeText left = outcomeText right := by
  cases related with
  | error error => rfl
  | ok same =>
      have shown := same.inspect_eq fun closed => ⟨closed.parameters, closed.body⟩
      cases same with
      | null => rfl
      | _ => exact congrArg (· ++ "\n") shown

namespace Console

/-- Whether the sessions of two consoles correspond, one to one, in all that programs can reach. -/
def Mirrors (console other : Console) : Prop :=
  ∃ pairs : Correspondence, (console.scope, other.scope) ∈ pairs.held ∧
    Mirrored Arena.WellFormed Arena.WellFormed pairs console.arena other.arena

/-- What holds of the session of a console between two lines. -/
structure Sound (console : Console) : Prop where
  wellFormed : console.arena.WellFormed [console.scope]
  known : console.arena.BindsOnly console.arena.Knows

theorem sound_start : start.Sound where
  wellFormed := .start 0
  known := by
    rintro ⟨_ | slot⟩ frame found binding member
    · cases found
      cases member
    · cases found

theorem Sound.answer {console : Console} (sound : console.Sound) (source : String) :
    (console.answer source).2.Sound := by
  unfold Console.answer
  dsimp only
  split
  · refine ⟨?_, ?_⟩
    · exact (Program.evaluate_wellFormed _ sound.wellFormed List.mem_cons_self).1
    · exact (Program.evaluate_knows _ console.scope sound.known).1
  · exact sound

namespace Mirrors

variable {console other : Console}

theorem refl (sound : console.Sound) : console.Mirrors console :=
  ⟨.identity console.arena [console.scope], List.mem_cons_self, _,
    .refl sound.wellFormed sound.wellFormed sound.wellFormed.toCoherent⟩

/-- Consoles that mirror each other say the same, and go on to mirror each other. -/
theorem answer (mirrors : console.Mirrors other) (source : String) :
    (console.answer source).1 = (other.answer source).1 ∧
      (console.answer source).2.Mirrors (other.answer source).2 := by
  rcases mirrors with ⟨pairs, held, mirrored⟩
  unfold Console.answer
  dsimp only
  split
  · have lawful := FramePolicy.reusing_lawful
    rcases lawful.evaluateWith lawful (Program.ofSource source).program held mirrored with
      ⟨later, _, handles, mirrored, outcome⟩
    exact ⟨outcomeText_eq outcome, later, handles ▸ held, mirrored⟩
  · exact ⟨rfl, pairs, held, mirrored⟩

theorem replies (mirrors : console.Mirrors other) (lines : List String) :
    console.replies lines = other.replies lines := by
  induction lines generalizing console other with
  | nil => rfl
  | cons line rest ih =>
      have answered := mirrors.answer line
      rw [Console.replies, Console.replies, answered.1, ih answered.2]

end Mirrors

/-- A text that cannot be read, or is a program that binds nothing, leaves a session that mirrors
the one it found. -/
theorem Sound.mirrors_answer {console : Console} (sound : console.Sound) {source : String}
    (quiet : (Program.ofSource source).accepted = true →
      (Program.ofSource source).program.isLetFree = true) :
    console.Mirrors (console.answer source).2 := by
  unfold Console.answer
  dsimp only
  split
  · next accepted =>
      exact ⟨_, List.mem_cons_self,
        Program.evaluate_mirrored (quiet accepted) sound.wellFormed List.mem_cons_self sound.known⟩
  · exact .refl sound

/-- The replies to lines with one that binds nothing among them are, but for the reply to that one,
the replies to the others. -/
theorem Sound.replies_eraseIdx {console : Console} (sound : console.Sound)
    (before after : List String) {line : String} (goesOn : ¬isExit line)
    (quiet : (Program.ofSource line).accepted = true →
      (Program.ofSource line).program.isLetFree = true) :
    (console.replies (before ++ line :: after)).eraseIdx before.length =
      console.replies (before ++ after) := by
  induction before generalizing console with
  | nil =>
      rw [List.nil_append, List.nil_append, replies, if_neg goesOn]
      exact ((sound.mirrors_answer quiet).replies after).symm
  | cons first before ih =>
      rw [List.cons_append, List.cons_append, replies, replies, List.length_cons]
      split
      · simp [List.eraseIdx_append_of_length_le]
      · rw [List.eraseIdx_cons_succ, ih (sound.answer first)]

/-- Lines that bind nothing do not disturb a session: with such a line among others, a run prints
in response to each of the others what it prints without that line. -/
theorem run_undisturbed {before after : List String} {line : String} {input input' : List UInt8}
    (whole : Line.split input = (before ++ line :: after).map sourceBytes)
    (fewer : Line.split input' = (before ++ after).map sourceBytes) (goesOn : ¬isExit line)
    (quiet : (Program.ofSource line).accepted = true →
      (Program.ofSource line).program.isLetFree = true) :
    run input = Printing.print (transcript (start.replies (before ++ line :: after))) ∧
      run input' = Printing.print (transcript (start.replies (before ++ after))) ∧
      start.replies (before ++ after) =
        (start.replies (before ++ line :: after)).eraseIdx before.length :=
  ⟨run_eq whole, run_eq fewer, (sound_start.replies_eraseIdx before after goesOn quiet).symm⟩

/-- The line in the middle calls a function of the session, which leaves a closure over its frame,
and then fails. -/
theorem run_undisturbed_failure :
    let before : List String := ["let f = fn(n) \x7b fn() \x7b n \x7d \x7d;"]
    let line : String := "f(f)() == f(1); -f(true)"
    let after : List String := ["f(2)()"]
    let bytes (lines : List String) : List UInt8 :=
      lines.flatMap fun line => sourceBytes line ++ [10]
    Line.split (bytes (before ++ line :: after)) = (before ++ line :: after).map sourceBytes ∧
      Line.split (bytes (before ++ after)) = (before ++ after).map sourceBytes ∧ ¬isExit line ∧
      ((Program.ofSource line).accepted = true →
        (Program.ofSource line).program.isLetFree = true) ∧
      start.replies (before ++ line :: after) =
        [.text "", .text "ERROR: unknown operator: -FUNCTION\n", .text "2\n"] ∧
      start.replies (before ++ after) =
        (start.replies (before ++ line :: after)).eraseIdx before.length := by
  intro before line after bytes
  have whole : Line.split (bytes (before ++ line :: after)) =
      (before ++ line :: after).map sourceBytes := by decide +kernel
  have fewer : Line.split (bytes (before ++ after)) = (before ++ after).map sourceBytes := by
    decide +kernel
  have goesOn : ¬isExit line := by decide +kernel
  have quiet : (Program.ofSource line).accepted = true →
      (Program.ofSource line).program.isLetFree = true := fun _ => by decide +kernel
  exact ⟨whole, fewer, goesOn, quiet, by decide +kernel,
    (run_undisturbed whole fewer goesOn quiet).2.2⟩

end Console

end Monkey
