import Monkey.Proofs.Grammar.Course
import Monkey.Proofs.Grammar.Locality

/-!
# One diagnostic for each malformed statement

A statement is given up with a diagnostic, and one that is read adds none, as long as no block is
opened: the statements of a block are given up one by one as well, and the block is still read. So
without a block a program has a diagnostic for each statement that is skipped.

No reader fails silently. In particular the token that a reader takes for an operator is always one.
-/

namespace Monkey

open Parse

/-- Whether a reading that leads from one cursor to another one passes over some tokens and appends
some diagnostics. -/
structure Cursor.Spans (start stop : Cursor) (passed : List Token)
    (reported : List Diagnostic) : Prop where
  remaining : start.remaining = passed ++ stop.remaining
  diagnostics : stop.diagnostics = start.diagnostics ++ reported

namespace Cursor

theorem Spans.append {start middle stop : Cursor} {passed passed' : List Token}
    {reported reported' : List Diagnostic} (first : start.Spans middle passed reported)
    (next : middle.Spans stop passed' reported') :
    start.Spans stop (passed ++ passed') (reported ++ reported') where
  remaining := by rw [first.remaining, next.remaining, List.append_assoc]
  diagnostics := by rw [next.diagnostics, first.diagnostics, List.append_assoc]

theorem Onward.exists_spans {start stop : Cursor} (onward : start.Onward stop) :
    ∃ passed reported, start.Spans stop passed reported := by
  rcases onward with ⟨⟨passed, remaining⟩, ⟨reported, diagnostics⟩⟩
  exact ⟨passed, reported, remaining.symm, diagnostics.symm⟩

/-- Whether a reading appends diagnostics only if it opens a block. -/
def Quietly (start stop : Cursor) : Prop :=
  ∃ passed reported, start.Spans stop passed reported ∧
    (.punctuation .openBrace ∉ passed → reported = [])

/-- Whether a reading appends a diagnostic, and only one unless it opens a block. -/
def Loudly (start stop : Cursor) : Prop :=
  ∃ passed reported, start.Spans stop passed reported ∧ reported ≠ [] ∧
    (.punctuation .openBrace ∉ passed → reported.length = 1)

theorem Quietly.diagnostics_eq {start stop : Cursor} (quietly : start.Quietly stop)
    (noBlock : .punctuation .openBrace ∉ start.remaining) :
    stop.diagnostics = start.diagnostics := by
  rcases quietly with ⟨passed, reported, spans, quiet⟩
  rw [spans.remaining, List.mem_append, not_or] at noBlock
  rw [spans.diagnostics, quiet noBlock.1, List.append_nil]

theorem Loudly.length_diagnostics {start stop : Cursor} (loudly : start.Loudly stop)
    (noBlock : .punctuation .openBrace ∉ start.remaining) :
    stop.diagnostics.length = start.diagnostics.length + 1 := by
  rcases loudly with ⟨passed, reported, spans, _, one⟩
  rw [spans.remaining, List.mem_append, not_or] at noBlock
  rw [spans.diagnostics, List.length_append, one noBlock.1]

theorem spans_advance (start : Cursor) : start.Spans start.advance (start.remaining.take 1) [] where
  remaining := by rw [Cursor.advance, ← List.drop_one, List.take_append_drop]
  diagnostics := (List.append_nil _).symm

theorem spans_report (start : Cursor) (diagnostic : Diagnostic) :
    start.Spans (start.report diagnostic) [] [diagnostic] :=
  ⟨rfl, rfl⟩

theorem quietly_course : Course Quietly Loudly where
  refl _ := ⟨[], [], ⟨rfl, (List.append_nil _).symm⟩, fun _ => rfl⟩
  trans := by
    rintro start middle stop ⟨passed, reported, first, quiet⟩ ⟨passed', reported', next, quiet'⟩
    refine ⟨_, _, first.append next, fun unopened => ?_⟩
    rw [List.mem_append, not_or] at unopened
    rw [quiet unopened.1, quiet' unopened.2, List.append_nil]
  fail := by
    rintro start middle stop ⟨passed, reported, first, quiet⟩ ⟨passed', reported', next, loud, one⟩
    refine ⟨_, _, first.append next, by simp [loud], fun unopened => ?_⟩
    rw [List.mem_append, not_or] at unopened
    rw [quiet unopened.1, List.nil_append, one unopened.2]
  advance {start} _ := ⟨_, _, start.spans_advance, fun _ => rfl⟩
  report start diagnostic := ⟨_, _, start.spans_report diagnostic, by simp, fun _ => rfl⟩
  atBrace {start} _ diagnostic :=
    ⟨_, _, start.spans_advance.append (start.advance.spans_report diagnostic), by simp,
      fun _ => rfl⟩

end Cursor

namespace Parse

open Cursor

/-- A block passes over its opening brace, so its diagnostics do not count; but it fails with
one. -/
theorem openBlock_goes (budget : Nat) :
    (Parse.expect (.punctuation .openBrace) >>= fun _ => Block.parse budget).Goes Quietly
      Loudly := by
  refine quietly_course.openBlock fun start opens => ?_
  have within := (goesOnward budget).block start.advance
  have meets := (readsWithin budget).block start.advance
  -- The brace is the second one of the tokens that are passed over.
  have brace : .punctuation .openBrace ∈
      start.remaining.take 1 ++ start.advance.remaining.take 1 := by
    have found : start.remaining.tail = .punctuation .openBrace :: start.remaining.tail.tail :=
      eq_cons_of_headD opens (by decide)
    change _ ∈ start.remaining.take 1 ++ start.remaining.tail.take 1
    rw [found]
    simp
  have opened := start.spans_advance.append start.advance.spans_advance
  cases outcome : Block.parse budget start.advance with
  | unfinished => trivial
  | parsed value stop =>
      rw [outcome] at within
      rcases Onward.exists_spans within with ⟨passed, reported, spans⟩
      refine ⟨_, _, opened.append spans, ?_⟩
      exact fun unopened => absurd (List.mem_append_left _ brace) unopened
  | failed stop =>
      rw [outcome] at within meets
      rcases Onward.exists_spans within with ⟨passed, reported, spans⟩
      refine ⟨_, _, opened.append spans, fun none => meets.2 ?_, ?_⟩
      · have quiet : reported = [] := none
        rw [spans.diagnostics, quiet, List.append_nil]
        rfl
      · exact fun unopened => absurd (List.mem_append_left _ brace) unopened

theorem goesQuietly (budget : Nat) : GoesWithin Quietly Loudly budget :=
  quietly_course.goesWithin openBlock_goes budget

end Parse

/-! ## Statements -/

/-- A statement is read, without a diagnostic unless it holds a block, or given up, with a
diagnostic and with one only unless it holds a block. -/
theorem Statement.parse_quietly_or_loudly {budget : Nat} {start : Cursor}
    (enough : 8 * start.remaining.length + 4 ≤ budget) :
    (∃ value stop, Statement.parse budget start = .parsed value stop ∧ start.Quietly stop) ∨
      ∃ stop, Statement.parse budget start = .failed stop ∧ start.Loudly stop := by
  have goes := (goesQuietly budget).statement start
  have leaves := (endsWithin budget).statement enough start (Nat.le_refl _)
  cases outcome : Statement.parse budget start with
  | parsed value stop =>
      rw [outcome] at goes
      exact .inl ⟨value, stop, rfl, goes⟩
  | failed stop =>
      rw [outcome] at goes
      exact .inr ⟨stop, rfl, goes⟩
  | unfinished =>
      rw [outcome] at leaves
      exact leaves.elim

theorem Parse.exists_of_bind_parsed {Result Next : Type} {first : Parse Result}
    {next : Result → Parse Next} {start stop : Cursor} {value : Next}
    (parsed : (first >>= next) start = .parsed value stop) :
    ∃ result middle, first start = .parsed result middle ∧
      next result middle = .parsed value stop := by
  change Parse.bind first next start = _ at parsed
  unfold Parse.bind at parsed
  cases outcome : first start with
  | parsed result middle =>
      rw [outcome] at parsed
      exact ⟨result, middle, rfl, parsed⟩
  | failed middle =>
      rw [outcome] at parsed
      cases parsed
  | unfinished =>
      rw [outcome] at parsed
      cases parsed

namespace Program

/-- Reads the statements of a program and keeps a record of each one that is skipped. -/
def parseAttempts : Nat → Parse (List (Option Statement))
  | 0 => unfinished
  | budget + 1 => do
      match ← current with
      | .eof => return []
      | _ =>
          match ← attempt (Statement.parse budget) with
          | some statement =>
              advance
              let rest ← parseAttempts budget
              return some statement :: rest
          | none =>
              skipTo Token.endsStatement
              advance
              let rest ← parseAttempts budget
              return none :: rest

/-- The statements of a program are the attempts that did not fail. -/
theorem parseStatements_eq_attempts (budget : Nat) :
    Program.parseStatements budget =
      parseAttempts budget >>= fun attempts => pure attempts.reduceOption := by
  induction budget with
  | zero => rfl
  | succ budget ih =>
      unfold Program.parseStatements parseAttempts
      rw [Parse.bind_assoc]
      refine bind_congr fun token => ?_
      cases token with
      | eof => rfl
      | _ =>
          dsimp only
          rw [Parse.bind_assoc]
          refine bind_congr fun attempted => ?_
          cases attempted with
          | some statement =>
              simp only [ih, Parse.bind_assoc]
              rfl
          | none =>
              simp only [ih, Parse.bind_assoc]
              rfl

/-- Without a block the diagnostics of a program count the statements that are skipped. -/
theorem length_diagnostics_eq_add {budget : Nat} {start stop : Cursor}
    {attempts : List (Option Statement)}
    (parsed : parseAttempts budget start = .parsed attempts stop)
    (noBlock : .punctuation .openBrace ∉ start.remaining) :
    stop.diagnostics.length = start.diagnostics.length + attempts.countP Option.isNone := by
  induction budget generalizing start attempts with
  | zero => cases parsed
  | succ budget ih =>
      rcases start with ⟨remaining, diagnostics⟩
      rw [parseAttempts, current_bind] at parsed
      generalize remaining.headD .eof = token at parsed
      split at parsed
      · cases parsed
        rfl
      rcases exists_of_bind_parsed parsed with ⟨attempted, middle, read, parsed⟩
      have onward := (goesOnward budget).statement ⟨remaining, diagnostics⟩
      have goes := (goesQuietly budget).statement ⟨remaining, diagnostics⟩
      cases outcome : Statement.parse budget ⟨remaining, diagnostics⟩ with
      | unfinished => rw [attempt, outcome] at read; cases read
      | parsed value middle =>
          rw [attempt_of_parsed outcome] at read
          rw [outcome] at goes onward
          cases read
          rcases exists_of_bind_parsed parsed with ⟨_, _, ⟨⟩, parsed⟩
          rcases exists_of_bind_parsed parsed with ⟨rest, _, others, ⟨⟩⟩
          have left := (onward.trans (.advance middle)).remaining.subset
          have total := ih others fun member => noBlock (left member)
          change _ = middle.diagnostics.length + _ at total
          rw [goes.diagnostics_eq noBlock] at total
          simpa using total
      | failed middle =>
          rw [attempt_of_failed outcome] at read
          rw [outcome] at goes onward
          cases read
          rcases exists_of_bind_parsed parsed with ⟨_, _, ⟨⟩, parsed⟩
          rcases exists_of_bind_parsed parsed with ⟨_, _, ⟨⟩, parsed⟩
          rcases exists_of_bind_parsed parsed with ⟨rest, _, others, ⟨⟩⟩
          have skipped := (Cursor.Onward.skipTo Token.endsStatement middle).trans (.advance _)
          have left := (onward.trans skipped).remaining.subset
          have total := ih others fun member => noBlock (left member)
          change _ = middle.diagnostics.length + _ at total
          rw [goes.length_diagnostics noBlock] at total
          simpa [Nat.add_assoc, Nat.add_comm 1] using total

/-- What came of the statements of a program one after the other: one that is skipped leaves
none. -/
def attempts (tokens : List Token) : List (Option Statement) :=
  match parseAttempts (parseBudget tokens) ⟨tokens, []⟩ with
  | .parsed attempts _ => attempts
  | _ => []

theorem parse_attempts (tokens : List Token) :
    (Program.parse tokens).program.statements = (attempts tokens).reduceOption ∧
      (.punctuation .openBrace ∉ tokens →
        (Program.parse tokens).diagnostics.length =
          (attempts tokens).countP Option.isNone) := by
  have enough : 8 * tokens.length + 5 ≤ parseBudget tokens := by
    unfold parseBudget
    omega
  rcases exists_parseStatements _ ⟨tokens, []⟩ enough with ⟨values, stop, parsed⟩
  have whole : Program.parse tokens = ⟨⟨values⟩, stop.diagnostics⟩ := by
    rw [Program.parse, parsed]
  rw [parseStatements_eq_attempts] at parsed
  rcases exists_of_bind_parsed parsed with ⟨all, middle, read, ⟨⟩⟩
  have recorded : attempts tokens = all := by
    rw [attempts, read]
  rw [whole, recorded]
  exact ⟨rfl, fun noBlock => by simpa using length_diagnostics_eq_add read noBlock⟩

end Program

/-! ## Operators -/

/-- Takes the token that the cursor stands on for an operator; if it is none, something else is
done. -/
def Parse.operatorOr (otherwise : Parse Operator) : Parse Operator := do
  let token ← current
  match token.operator? with
  | some operator => return operator
  | none => otherwise

namespace Expr

/-- Reads an operator and the operand behind it. -/
def parseSigned (otherwise : Parse Operator) (budget : Nat) : Parse Expr := do
  let token ← current
  let operator ← operatorOr otherwise
  advance
  let operand ← Expr.parse budget .unary
  return unary token operator operand

/-- Goes on after a left operand with the upcoming operator, and then with what follows. -/
def parseOperator (otherwise : Parse Operator) (budget : Nat) (context : Precedence)
    (left : Expr) : Parse Expr := do
  advance
  let token ← current
  let operator ← operatorOr otherwise
  advance
  let right ← Expr.parse budget token.precedence
  Expr.parseOperators budget context (binary token left operator right)

variable (otherwise : Parse Operator) (budget : Nat) {start : Cursor}

theorem parseOperand_eq_parseSigned
    (sign : start.current.kind = .operator .bang ∨ start.current.kind = .operator .minus) :
    Expr.parseOperand (budget + 2) start = parseSigned otherwise budget start := by
  rcases start with ⟨remaining, diagnostics⟩
  rw [parseOperand, parseSigned, current_bind, current_bind, operatorOr, Parse.bind_assoc,
    current_bind]
  change (remaining.headD .eof).kind = _ ∨ (remaining.headD .eof).kind = _ at sign
  generalize remaining.headD .eof = token at sign
  cases token with
  | operator found => rcases sign with same | same <;> cases same <;> rfl
  | _ => simp [Token.kind] at sign

theorem parseOperators_eq_parseOperator {context : Precedence} {left : Expr} {sign : Operator}
    (found : start.upcoming.kind = .operator sign) (binds : context < start.upcoming.precedence) :
    Expr.parseOperators (budget + 1) context left start =
      parseOperator otherwise budget context left start := by
  rcases start with ⟨remaining, diagnostics⟩
  rw [parseOperators, parseOperator, upcoming_bind, advance_bind, current_bind, operatorOr,
    Parse.bind_assoc, current_bind]
  change (remaining.tail.headD .eof).kind = _ at found
  change context < (remaining.tail.headD .eof).precedence at binds
  generalize remaining.tail.headD .eof = token at found binds
  cases token with
  | operator operator =>
      change context < operator.precedence at binds
      simp only [if_pos binds]
      rfl
  | _ => simp [Token.kind] at found

end Expr

namespace Program

/-- Diagnostics are only ever appended, and a statement is given up with one, or else read without
one, unless a block is opened. So without a block a program has a diagnostic for each statement that
is skipped. Where a token is taken for an operator it is one, so that it does not matter what would
happen otherwise. -/
theorem parse_reports :
    (∀ budget, GoesOnward budget ∧
      (Program.parseStatements budget).Goes Cursor.Onward Cursor.Onward) ∧
    (∀ budget (start : Cursor), 8 * start.remaining.length + 4 ≤ budget →
      (∃ value stop, Statement.parse budget start = .parsed value stop ∧ start.Quietly stop) ∨
        ∃ stop, Statement.parse budget start = .failed stop ∧ start.Loudly stop) ∧
    (∀ tokens, (Program.parse tokens).program.statements = (attempts tokens).reduceOption ∧
      (.punctuation .openBrace ∉ tokens →
        (Program.parse tokens).diagnostics.length = (attempts tokens).countP Option.isNone)) ∧
    ∀ (otherwise : Parse Operator) (budget : Nat) (start : Cursor),
      (start.current.kind = .operator .bang ∨ start.current.kind = .operator .minus →
        Expr.parseOperand (budget + 2) start = Expr.parseSigned otherwise budget start) ∧
      ∀ context left sign, start.upcoming.kind = .operator sign →
        context < start.upcoming.precedence →
          Expr.parseOperators (budget + 1) context left start =
            Expr.parseOperator otherwise budget context left start := by
  refine ⟨fun budget => ⟨goesOnward budget, parseStatements_onward budget⟩,
    fun _ _ enough => Statement.parse_quietly_or_loudly enough, parse_attempts,
    fun otherwise budget start => ⟨fun sign => ?_, fun context left sign found binds => ?_⟩⟩
  · exact Expr.parseOperand_eq_parseSigned otherwise budget sign
  · exact Expr.parseOperators_eq_parseOperator otherwise budget found binds

/-- In `+ ; -1` the first statement is given up, with one diagnostic, and the second one is read. -/
theorem parse_reports_sign :
    let row : List Token :=
      [.operator .plus, .punctuation .semicolon, .operator .minus, .int "1"]
    let reported : Diagnostic := .noExpression (.operator .plus)
    let second : Cursor := ⟨row.drop 2, [reported]⟩
    .punctuation .openBrace ∉ row ∧
      attempts row = [none, some (.expr (.operator .minus)
        (.unary (.operator .minus) .minus (.int (.int "1") 1)))] ∧
      (Program.parse row).diagnostics.length = 1 ∧
      Cursor.Loudly ⟨row, []⟩ ⟨row, [reported]⟩ ∧
      Expr.parseOperand 20 second =
        Expr.parseSigned (fun cursor => .failed cursor) 18 second := by
  intro row reported second
  rcases parse_reports with ⟨_, ofStatements, ofPrograms, ofOperators⟩
  have noBlock : .punctuation .openBrace ∉ row := by decide
  refine ⟨noBlock, rfl, ((ofPrograms row).2 noBlock).trans rfl, ?_, ?_⟩
  · rcases ofStatements 36 ⟨row, []⟩ (by decide) with ⟨value, stop, read, _⟩ | ⟨stop, read, loud⟩
    · cases read
    · obtain rfl : Cursor.mk row [reported] = stop := Outcome.failed.inj read
      exact loud
  · exact (ofOperators _ 18 second).1 (.inr rfl)

end Program

end Monkey
