import Monkey.Proofs.Console.Undisturbed
import Monkey.Proofs.Evaluation.Sequencing
import Monkey.Proofs.Grammar.Concatenation
import Monkey.Proofs.Lexing.Lines

/-!
# The two ways to run a text

Lines that each end in a semicolon may be typed one by one, or put into one file. The tokens are the
same then, and so are the statements; and the one program comes to what its first line comes to that
fails or returns, or else its last line. What is collected after each line of the console, and not
before the end of the file, no statement can see.
-/

namespace Monkey

/-- The statements of lines that each end in a semicolon are those of one program. -/
theorem Program.ofSource_intercalate {lines : List String}
    (accepted : ∀ line ∈ lines, (Program.ofSource line).accepted = true)
    (ended : ∀ line ∈ lines,
      (Token.ofSource line).getLast? = some (.punctuation .semicolon)) :
    Program.ofSource ("\n".intercalate lines) =
      ⟨⟨lines.flatMap fun line => (Program.ofSource line).program.statements⟩, []⟩ := by
  have last (line : String) (member : line ∈ lines) :
      ∀ token ∈ (Token.ofSource line).getLast?, token = .punctuation .semicolon := by
    intro token found
    rw [ended line member] at found
    exact (Option.some.inj found).symm
  have closed : ∀ line ∈ lines, ∀ token ∈ (Token.ofSource line).getLast?,
      ∀ text, token ≠ .string text := by
    intro line member token found text
    rw [last line member token found]
    exact Token.noConfusion
  rw [Program.ofSource, Token.ofSource_intercalate closed]
  refine Program.parse_of_derives (Phrase.Derives.flatMap (fun line member => ?_) last)
  refine Program.derives_of_parse (Token.eof_not_mem_ofSource line) ?_
  have quiet := List.isEmpty_iff.mp (accepted line member)
  rw [← Program.ofSource, ← quiet]

/-- A policy like `reusing` that never collects. -/
def FramePolicy.lingering : FramePolicy :=
  { FramePolicy.reusing with collect := fun _ arena => arena }

theorem FramePolicy.lingering_lawful : FramePolicy.lingering.Lawful Arena.WellFormed :=
  { reusing_lawful with
    collect := fun wellFormed admitted => ⟨wellFormed, .refl _, rfl, admitted⟩ }

namespace Console

/-- What the statements of a line come to, before a pending result has arrived and before anything
is collected. -/
def outcome (line : String) (console : Console) : Except EvalError Value × Arena :=
  evaluateStatements (Value.apply .reusing callDepthLimit) console.scope .null
    (Program.ofSource line).program.statements console.arena

/-- Whether the statements of a line fail or end in a return that no function catches. -/
def stops (line : String) (console : Console) : Bool :=
  match (console.outcome line).1 with
  | .ok value => value.isReturned
  | .error _ => true

/-- The index of the first line that stops, or else of the last one. -/
def stopIndex : List String → Console → Nat
  | [], _ => 0
  | [_], _ => 0
  | line :: next :: rest, console =>
      if console.stops line then 0 else stopIndex (next :: rest) (console.answer line).2 + 1

theorem answer_eq_of_accepted {line : String}
    (accepted : (Program.ofSource line).accepted = true) (console : Console) :
    console.answer line =
      let ended := (Program.ofSource line).program.evaluate console.scope console.arena
      (outcomeText ended.1, { console with arena := ended.2 }) :=
  if_pos accepted

/-- A program that begins with the statements of a line ends there if the line stops, and else goes
on with what the line leaves. -/
theorem evaluate_line_append (line : String) {rest : List Statement} (more : rest ≠ [])
    (console : Console) :
    Program.evaluate ⟨(Program.ofSource line).program.statements ++ rest⟩ console.scope
        console.arena =
      if console.stops line then
        (Program.ofSource line).program.evaluate console.scope console.arena
      else
        Program.evaluate ⟨rest⟩ console.scope (console.outcome line).2 := by
  rw [Program.evaluate_append_eq _ more]
  unfold stops outcome
  rcases evaluateStatements (Value.apply .reusing callDepthLimit) console.scope .null
    (Program.ofSource line).program.statements console.arena with ⟨_ | value, later⟩ <;> rfl

namespace Mirrors

variable {console other : Console}

/-- Consoles that mirror each other stop at the same lines. Where they go on, one of them may leave
the collection at the end of the line to a later one. -/
theorem outcome (mirrors : console.Mirrors other) {line : String}
    (accepted : (Program.ofSource line).accepted = true) :
    console.stops line = other.stops line ∧
      (console.answer line).2.Mirrors { other with arena := (other.outcome line).2 } := by
  rcases mirrors with ⟨pairs, held, mirrored⟩
  have lawful := FramePolicy.reusing_lawful
  have simulates := lawful.simulates lawful
  rcases simulates.agree_statements (simulates.applications callDepthLimit)
    (Program.ofSource line).program.statements held .null mirrored with
    ⟨later, extends_, ⟨frames, mirrors⟩, same⟩
  have admits := mirrors.admits_all (same.map fun _ _ same => same.unwrap).outcomeValues
  have collected := lawful.collect_mirrored FramePolicy.lingering_lawful ⟨frames, mirrors⟩
    admits.1 admits.2
  constructor
  · unfold stops Console.outcome
    revert same
    generalize (evaluateStatements _ console.scope _ _ _).1 = left
    generalize (evaluateStatements _ other.scope _ _ _).1 = right
    intro same
    cases same with
    | ok same => cases same <;> rfl
    | error error => rfl
  · rw [answer_eq_of_accepted accepted, Program.evaluate_eq]
    exact ⟨_, extends_.held ▸ held, collected⟩

/-- The statements of lines come to what a console says to the first line that stops, or else to the
last one. -/
theorem evaluate_lines (mirrors : console.Mirrors other) {lines : List String} (some_ : lines ≠ [])
    (goesOn : ∀ line ∈ lines, ¬isExit line)
    (accepted : ∀ line ∈ lines, (Program.ofSource line).accepted = true)
    (more : ∀ line ∈ lines, (Program.ofSource line).program.statements ≠ []) :
    (console.replies lines)[console.stopIndex lines]? = some (.text (outcomeText
      (Program.evaluate
        ⟨lines.flatMap fun line => (Program.ofSource line).program.statements⟩
        other.scope other.arena).1)) := by
  induction lines generalizing console other with
  | nil => exact absurd rfl some_
  | cons line rest ih =>
      rw [List.forall_mem_cons] at goesOn accepted more
      have answered := (mirrors.answer line).1
      rw [answer_eq_of_accepted accepted.1 other] at answered
      rw [Console.replies, if_neg goesOn.1, List.flatMap_cons]
      cases rest with
      | nil => rw [List.flatMap_nil, List.append_nil, stopIndex, answered]; rfl
      | cons next rest =>
          rcases mirrors.outcome accepted.1 with ⟨stops, following⟩
          have others : (next :: rest).flatMap
              (fun line => (Program.ofSource line).program.statements) ≠ [] := by
            have first := (List.forall_mem_cons.mp more.2).1
            simp [first]
          rw [stopIndex, stops, evaluate_line_append line others other]
          cases other.stops line with
          | true =>
              simp only [if_true, List.getElem?_cons_zero, answered]
          | false =>
              simp only [Bool.false_eq_true, if_false, List.getElem?_cons_succ]
              exact ih following (List.cons_ne_nil _ _) goesOn.2 accepted.2 more.2

end Mirrors

theorem statements_ne_nil {line : String} (accepted : (Program.ofSource line).accepted = true)
    (some_ : Token.ofSource line ≠ []) : (Program.ofSource line).program.statements ≠ [] := by
  intro none
  have quiet := List.isEmpty_iff.mp accepted
  have derives : (Phrase.statements (Program.ofSource line).program.statements).Derives
      (Token.ofSource line) :=
    Program.derives_of_parse (Token.eof_not_mem_ofSource line) (by rw [← Program.ofSource, ← quiet])
  rw [none] at derives
  generalize Token.ofSource line = tokens at derives some_
  cases derives
  exact some_ rfl

/-- Lines that are each accepted and end in a semicolon, joined by line feeds to one text: read line
by line, the text gets these replies one by one; run as a whole, it prints the reply to the first
line that fails or returns, or else to the last one. -/
theorem runSource_intercalate {lines : List String} (some_ : lines ≠ [])
    (whole : ∀ line ∈ lines, '\n' ∉ line.toList ∧ '\r' ∉ line.toList)
    (goesOn : ∀ line ∈ lines, ¬isExit line)
    (accepted : ∀ line ∈ lines, (Program.ofSource line).accepted = true)
    (ended : ∀ line ∈ lines,
      (Token.ofSource line).getLast? = some (.punctuation .semicolon)) :
    let source := "\n".intercalate lines
    run (sourceBytes source) = Printing.print (transcript (start.replies lines)) ∧
      ∃ text, (start.replies lines)[start.stopIndex lines]? = some (.text text) ∧
        runSource source = Printing.print text := by
  intro source
  have tokens (line : String) (member : line ∈ lines) : Token.ofSource line ≠ [] := by
    intro none
    have last := ended line member
    rw [none] at last
    cases last
  have split : Line.split (sourceBytes source) = lines.map sourceBytes := by
    refine Line.split_intercalate (fun line member => ?_) fun line member => ?_
    · exact Line.isWhole_sourceBytes (whole line member).1 (whole line member).2
    · rintro rfl
      exact tokens "" (List.mem_of_mem_getLast? member) Token.ofBytes_nil
  refine ⟨run_eq split, _, (Mirrors.refl sound_start).evaluate_lines some_ goesOn accepted
    fun line member => statements_ne_nil (accepted line member) (tokens line member), ?_⟩
  rw [runSource_eq, answer, Program.ofSource_intercalate accepted ended]
  rfl

/-- The third line returns, so the text as a whole never comes to the fourth. -/
theorem runSource_intercalate_return :
    let lines : List String :=
      ["let f = fn(n) \x7b return n + 1; \x7d;", "f(1);", "if (true) \x7b return f; \x7d; 2;", "g;"]
    let source := "\n".intercalate lines
    lines ≠ [] ∧ (∀ line ∈ lines, '\n' ∉ line.toList ∧ '\r' ∉ line.toList) ∧
      (∀ line ∈ lines, ¬isExit line) ∧
      (∀ line ∈ lines, (Program.ofSource line).accepted = true) ∧
      (∀ line ∈ lines, (Token.ofSource line).getLast? = some (.punctuation .semicolon)) ∧
      start.stopIndex lines = 2 ∧
      start.replies lines = [.text "", .text "2\n", .text "fn(n) \x7b return (n + 1); \x7d\n",
        .text "ERROR: identifier not found: g\n"] ∧
      ∃ text, (start.replies lines)[start.stopIndex lines]? = some (.text text) ∧
        runSource source = Printing.print text := by
  intro lines source
  have some_ : lines ≠ [] := List.cons_ne_nil _ _
  have whole : ∀ line ∈ lines, '\n' ∉ line.toList ∧ '\r' ∉ line.toList := by decide +kernel
  have goesOn : ∀ line ∈ lines, ¬isExit line := by decide +kernel
  have accepted : ∀ line ∈ lines, (Program.ofSource line).accepted = true := by decide +kernel
  have ended : ∀ line ∈ lines,
      (Token.ofSource line).getLast? = some (.punctuation .semicolon) := by decide +kernel
  exact ⟨some_, whole, goesOn, accepted, ended, by decide +kernel, by decide +kernel,
    (runSource_intercalate some_ whole goesOn accepted ended).2⟩

end Console

end Monkey
