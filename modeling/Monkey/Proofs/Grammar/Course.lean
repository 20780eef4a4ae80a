import Monkey.Proofs.Grammar.Completeness

/-!
# The course of a reading

What is to be said about where a reader leaves the cursor, whatever it reads, is a pair of relations
between two cursors: one for readings that succeed and one for readings that fail. If they hold of
the single steps and can be put together, they hold of every reader. `Parse.Course` lists the steps,
and `Parse.GoesWithin` derives the readers from them, once for all pairs.

The steps tell the closing brace apart, since no reader but that of a block takes one: the others
fail when they come upon it. How a block is read, from its opening brace on, is left to each pair.
-/

namespace Monkey

open Parse

variable {Result Next : Type} {well ill : Cursor → Cursor → Prop}

/-- Whether the place where a reading ends is in the first relation to its start if it succeeds, and
in the second one if it fails. -/
def Outcome.Goes (well ill : Cursor → Cursor → Prop) (start : Cursor) : Outcome Result → Prop
  | .parsed _ stop => well start stop
  | .failed stop => ill start stop
  | .unfinished => True

/-! ## Tokens that start no expression -/

namespace Expr

/-- On a token that starts no expression an operand fails at once. -/
theorem parseOperand_stray {start : Cursor} (stray : start.current.startsExpression = false)
    (budget : Nat) :
    parseOperand (budget + 1) start =
      .failed (start.report (.noExpression start.current.kind)) := by
  rcases start with ⟨remaining, diagnostics⟩
  rw [parseOperand, current_bind]
  simp only [Cursor.current] at stray ⊢
  generalize remaining.headD .eof = token at stray
  split <;> first | rfl | simp [Token.startsExpression] at stray

theorem parse_stray {start : Cursor} (stray : start.current.startsExpression = false)
    (budget : Nat) (context : Precedence) :
    Expr.parse (budget + 2) context start =
      .failed (start.report (.noExpression start.current.kind)) := by
  rw [Expr.parse]
  change Parse.bind (parseOperand (budget + 1)) _ start = _
  rw [Parse.bind, parseOperand_stray stray]

end Expr

namespace Parse

/-- Whether every reading goes as two relations say. -/
def Goes (well ill : Cursor → Cursor → Prop) (parse : Parse Result) : Prop :=
  ∀ start, (parse start).Goes well ill start

/-- Whether every reading before a given token goes as two relations say. -/
def GoesFacing (well ill : Cursor → Cursor → Prop) (token : Token) (parse : Parse Result) : Prop :=
  ∀ start, start.upcoming = token → (parse start).Goes well ill start

theorem Goes.facing {parse : Parse Result} (goes : parse.Goes well ill) {token : Token} :
    parse.GoesFacing well ill token :=
  fun start _ => goes start

/-- What is done with a result afterwards does not matter. -/
theorem goes_bind_pure {parse : Parse Result} {value : Result → Next} {start origin : Cursor}
    (goes : (parse start).Goes well ill origin) :
    ((parse >>= fun result => pure (value result)) start).Goes well ill origin := by
  change (Parse.bind parse _ start).Goes well ill origin
  rw [Parse.bind]
  cases outcome : parse start <;> rw [outcome] at goes <;> exact goes

theorem Goes.current_bind {next : Token → Parse Next}
    (rest : ∀ token, (next token).Goes well ill) : (Parse.current >>= next).Goes well ill :=
  fun start => rest start.current start

theorem Goes.upcoming_bind {next : Token → Parse Next}
    (rest : ∀ token, (next token).GoesFacing well ill token) :
    (Parse.upcoming >>= next).Goes well ill :=
  fun start => rest start.upcoming start rfl

/-- What makes a pair of relations hold of readers if it holds of their steps. A failure is reported
where the cursor stands, or else on the closing brace right after it. -/
structure Course (well ill : Cursor → Cursor → Prop) : Prop where
  refl (start : Cursor) : well start start
  trans {start middle stop : Cursor} (first : well start middle) (next : well middle stop) :
    well start stop
  fail {start middle stop : Cursor} (first : well start middle) (next : ill middle stop) :
    ill start stop
  advance {start : Cursor} (other : start.upcoming ≠ .punctuation .closeBrace) :
    well start start.advance
  report (start : Cursor) (diagnostic : Diagnostic) : ill start (start.report diagnostic)
  atBrace {start : Cursor} (closes : start.upcoming = .punctuation .closeBrace)
    (diagnostic : Diagnostic) : ill start (start.advance.report diagnostic)

namespace Course

variable (course : Course well ill)

include course

theorem pure (value : Result) : (Pure.pure value : Parse Result).Goes well ill :=
  fun start => course.refl start

theorem stop (diagnostic : Diagnostic) : (Parse.fail diagnostic : Parse Result).Goes well ill :=
  fun start => course.report start diagnostic

/-- The rule for a sequence of two readings, at one start. -/
theorem bind_at {first : Parse Result} {next : Result → Parse Next} {start : Cursor}
    (goes : (first start).Goes well ill start)
    (rest : ∀ value stop, first start = .parsed value stop →
      (next value stop).Goes well ill stop) :
    ((first >>= next) start).Goes well ill start := by
  change (Parse.bind first next start).Goes well ill start
  unfold Parse.bind
  cases outcome : first start with
  | unfinished => trivial
  | failed stop =>
      rw [outcome] at goes
      exact goes
  | parsed value middle =>
      rw [outcome] at goes
      have after := rest value middle outcome
      simp only
      cases outcomeNext : next value middle with
      | unfinished => trivial
      | failed stop =>
          rw [outcomeNext] at after
          exact course.fail goes after
      | parsed result stop =>
          rw [outcomeNext] at after
          exact course.trans goes after

theorem bind {first : Parse Result} {next : Result → Parse Next} (goes : first.Goes well ill)
    (rest : ∀ value, (next value).Goes well ill) : (first >>= next).Goes well ill :=
  fun start => course.bind_at (goes start) fun value stop _ => rest value stop

theorem advance_bind {next : Unit → Parse Next} {token : Token}
    (other : token ≠ .punctuation .closeBrace) (rest : (next ()).Goes well ill) :
    (Parse.advance >>= next).GoesFacing well ill token := by
  intro start facing
  have step : (Parse.advance start).Goes well ill start :=
    course.advance fun closes => other (facing.symm.trans closes)
  exact course.bind_at step fun _ _ _ => rest _

theorem expect {kind : Kind} (other : kind ≠ .punctuation .closeBrace) :
    (Parse.expect kind).Goes well ill := by
  intro start
  unfold Parse.expect
  split
  · next found =>
      refine course.advance fun closes => other ?_
      rw [← found, closes]
      rfl
  · exact course.report start _

theorem skipOptional {kind : Kind} (other : kind ≠ .punctuation .closeBrace) :
    (Parse.skipOptional kind).Goes well ill := by
  intro start
  unfold Parse.skipOptional
  split
  · next found =>
      refine course.advance fun closes => other ?_
      rw [← found, closes]
      rfl
  · exact course.refl start

/-- An expression that starts with the upcoming token, whatever that is. -/
theorem advance_expr {budget : Nat} {context : Precedence} {next : Expr → Parse Next}
    (expr : (Expr.parse budget context).Goes well ill)
    (rest : ∀ value, (next value).Goes well ill) :
    (Parse.advance >>= fun _ => Expr.parse budget context >>= next).Goes well ill := by
  intro start
  by_cases closes : start.upcoming = .punctuation .closeBrace
  · have stray : start.advance.current.startsExpression = false := by
      change start.upcoming.startsExpression = false
      rw [closes]
      rfl
    change (Parse.bind (Expr.parse budget context) next start.advance).Goes well ill start
    rw [Parse.bind]
    rcases budget with _ | _ | budget
    · trivial
    · trivial
    · rw [Expr.parse_stray stray]
      exact course.atBrace closes _
  · exact course.advance_bind closes (course.bind expr rest) start rfl

/-- A block after its opening brace, which has to come first. -/
theorem block_bind {budget : Nat} {next : Block → Parse Next}
    (block : (Parse.expect (.punctuation .openBrace) >>= fun _ => Block.parse budget).Goes well ill)
    (rest : ∀ value, (next value).Goes well ill) :
    (Parse.expect (.punctuation .openBrace) >>= fun _ => Block.parse budget >>= next).Goes
      well ill := by
  rw [← Parse.bind_assoc]
  exact course.bind block rest

/-- What is to be shown of blocks: how they go from before their opening brace. -/
theorem openBlock {budget : Nat}
    (block : ∀ start : Cursor, start.upcoming = .punctuation .openBrace →
      (Block.parse budget start.advance).Goes well ill start) :
    (Parse.expect (.punctuation .openBrace) >>= fun _ => Block.parse budget).Goes well ill := by
  intro start
  change (Parse.bind (Parse.expect (.punctuation .openBrace)) _ start).Goes well ill start
  rw [Parse.bind, Parse.expect]
  by_cases opens : start.upcoming.kind = .punctuation .openBrace
  · rw [if_pos opens]
    exact block start (Token.eq_of_kind_punctuation opens)
  · rw [if_neg opens]
    exact course.report start _

/-! ## Parameters -/

theorem identifier : Identifier.parse.Goes well ill := by
  unfold Identifier.parse
  exact course.bind (course.expect (by decide)) fun _ start => course.refl start

theorem moreParameters (budget : Nat) : (Identifier.parseMore budget).Goes well ill := by
  induction budget with
  | zero => exact fun _ => trivial
  | succ budget ih =>
      unfold Identifier.parseMore
      refine .upcoming_bind fun token => ?_
      split
      · refine course.advance_bind (by decide) (course.bind course.identifier fun _ => ?_)
        exact course.bind ih fun _ => course.pure _
      · exact (course.bind (course.expect (by decide)) fun _ => course.pure _).facing

theorem parameters (budget : Nat) : (Identifier.parseList budget).Goes well ill := by
  unfold Identifier.parseList
  refine .upcoming_bind fun token => ?_
  split
  · exact course.advance_bind (by decide) (course.pure _)
  · refine (course.bind course.identifier fun _ => ?_).facing
    exact course.bind (course.moreParameters budget) fun _ => course.pure _

end Course

/-! ## Expressions and statements -/

/-- Whether the readers with a budget go as two relations say. -/
structure GoesWithin (well ill : Cursor → Cursor → Prop) (budget : Nat) : Prop where
  expr (context : Precedence) : (Expr.parse budget context).Goes well ill
  operators (context : Precedence) (left : Expr) :
    (Expr.parseOperators budget context left).Goes well ill
  operand : (Expr.parseOperand budget).Goes well ill
  unary (operator : Operator) : (Expr.parseUnary budget operator).Goes well ill
  group : (Expr.parseGroup budget).Goes well ill
  conditional : (Expr.parseConditional budget).Goes well ill
  function : (Expr.parseFunction budget).Goes well ill
  arguments : (Expr.parseArguments budget).Goes well ill
  moreArguments : (Expr.parseMoreArguments budget).Goes well ill
  statement : (Statement.parse budget).Goes well ill

namespace GoesWithin

theorem zero : GoesWithin well ill 0 := by
  constructor <;> intros <;> exact fun _ => trivial

variable {budget : Nat} (readers : GoesWithin well ill budget) (course : Course well ill)
  (block : (Parse.expect (.punctuation .openBrace) >>= fun _ => Block.parse budget).Goes well ill)

include readers course

theorem operators_succ (context : Precedence) (left : Expr) :
    (Expr.parseOperators (budget + 1) context left).Goes well ill := by
  unfold Expr.parseOperators
  refine .upcoming_bind fun token => ?_
  split
  · split
    · refine course.advance_bind (by simp) ?_
      exact course.advance_expr (readers.expr _) fun _ => readers.operators context _
    · exact (course.pure _).facing
  · split
    · refine course.advance_bind (by decide) ?_
      exact course.bind readers.arguments fun _ => readers.operators context _
    · exact (course.pure _).facing
  · exact (course.pure _).facing

theorem operand_succ : (Expr.parseOperand (budget + 1)).Goes well ill := by
  unfold Expr.parseOperand
  refine .current_bind fun token => ?_
  split
  · exact course.pure _
  · split
    · exact course.pure _
    · exact course.stop _
  · exact course.pure _
  · exact course.pure _
  · exact course.pure _
  · exact readers.unary _
  · exact readers.unary _
  · exact readers.group
  · exact readers.conditional
  · exact readers.function
  · exact course.stop _

theorem unary_succ (operator : Operator) :
    (Expr.parseUnary (budget + 1) operator).Goes well ill := by
  unfold Expr.parseUnary
  exact course.advance_expr (readers.expr _) fun _ => course.pure _

theorem group_succ : (Expr.parseGroup (budget + 1)).Goes well ill := by
  unfold Expr.parseGroup
  refine course.advance_expr (readers.expr _) fun _ => ?_
  exact course.bind (course.expect (by decide)) fun _ => course.pure _

theorem arguments_succ : (Expr.parseArguments (budget + 1)).Goes well ill := by
  unfold Expr.parseArguments
  refine .upcoming_bind fun token => ?_
  split
  · exact course.advance_bind (by decide) (course.pure _)
  · refine (course.advance_expr (readers.expr _) fun _ => ?_).facing
    exact course.bind readers.moreArguments fun _ => course.pure _

theorem moreArguments_succ : (Expr.parseMoreArguments (budget + 1)).Goes well ill := by
  unfold Expr.parseMoreArguments
  refine .upcoming_bind fun token => ?_
  split
  · refine course.advance_bind (by decide) (course.advance_expr (readers.expr _) fun _ => ?_)
    exact course.bind readers.moreArguments fun _ => course.pure _
  · exact (course.bind (course.expect (by decide)) fun _ => course.pure _).facing

theorem statement_succ : (Statement.parse (budget + 1)).Goes well ill := by
  have ending (value : Expr → Statement) (read : Expr) :
      (Parse.skipOptional (.punctuation .semicolon) >>= fun _ => pure (value read)).Goes
        well ill :=
    course.bind (course.skipOptional (by decide)) fun _ => course.pure _
  unfold Statement.parse
  refine .current_bind fun token => ?_
  split
  · refine course.bind course.identifier fun _ => ?_
    refine course.bind (course.expect (by decide)) fun _ => ?_
    exact course.advance_expr (readers.expr _) (ending _)
  · exact course.advance_expr (readers.expr _) (ending _)
  · exact course.bind (readers.expr _) (ending _)

include block

theorem conditional_succ : (Expr.parseConditional (budget + 1)).Goes well ill := by
  unfold Expr.parseConditional
  refine course.bind (course.expect (by decide)) fun _ => ?_
  refine course.advance_expr (readers.expr _) fun _ => ?_
  refine course.bind (course.expect (by decide)) fun _ => course.block_bind block fun _ => ?_
  refine .upcoming_bind fun token => ?_
  split
  · refine course.advance_bind (by decide) (course.block_bind block fun _ => course.pure _)
  · exact (course.pure _).facing

omit readers in
theorem function_succ : (Expr.parseFunction (budget + 1)).Goes well ill := by
  unfold Expr.parseFunction
  refine course.bind (course.expect (by decide)) fun _ => ?_
  refine course.bind (course.parameters budget) fun _ => ?_
  exact course.block_bind block fun _ => course.pure _

/-- From one budget to the next, if the blocks within go as they should. -/
theorem succ : GoesWithin well ill (budget + 1) where
  expr context := course.bind readers.operand fun left => readers.operators context left
  operators := readers.operators_succ course
  operand := readers.operand_succ course
  unary := readers.unary_succ course
  group := readers.group_succ course
  conditional := readers.conditional_succ course block
  function := function_succ course block
  arguments := readers.arguments_succ course
  moreArguments := readers.moreArguments_succ course
  statement := readers.statement_succ course

end GoesWithin

/-- By induction on the budget, since every reader calls the others with a smaller one. -/
theorem Course.goesWithin (course : Course well ill)
    (block : ∀ budget,
      (Parse.expect (.punctuation .openBrace) >>= fun _ => Block.parse budget).Goes well ill)
    (budget : Nat) : GoesWithin well ill budget := by
  induction budget with
  | zero => exact .zero
  | succ budget readers => exact readers.succ course (block budget)

end Parse

/-! ## Readers never go back -/

/-- Whether a cursor is where another one gets to: it has a part of the tokens at the end, and all
diagnostics and perhaps more. -/
structure Cursor.Onward (start stop : Cursor) : Prop where
  remaining : stop.remaining <:+ start.remaining
  diagnostics : start.diagnostics <+: stop.diagnostics

namespace Cursor.Onward

theorem refl (start : Cursor) : start.Onward start :=
  ⟨List.suffix_refl _, List.prefix_refl _⟩

theorem trans {start middle stop : Cursor} (first : start.Onward middle)
    (next : middle.Onward stop) : start.Onward stop :=
  ⟨next.remaining.trans first.remaining, first.diagnostics.trans next.diagnostics⟩

theorem advance (start : Cursor) : start.Onward start.advance :=
  ⟨List.tail_suffix _, List.prefix_refl _⟩

theorem skipTo (stop : Token → Bool) (start : Cursor) : start.Onward (start.skipTo stop) :=
  ⟨List.dropWhile_suffix _, List.prefix_refl _⟩

theorem report (start : Cursor) (diagnostic : Diagnostic) :
    start.Onward (start.report diagnostic) :=
  ⟨List.suffix_refl _, List.prefix_append _ _⟩

theorem course : Course Cursor.Onward Cursor.Onward where
  refl := refl
  trans := trans
  fail := trans
  advance _ := advance _
  report := report
  atBrace _ _ := (advance _).trans (report _ _)

/-- A block is read from behind its opening brace. -/
def Within (start stop : Cursor) : Prop :=
  start.advance.Onward stop

theorem Within.onward {start stop : Cursor} (within : Within start stop) : start.Onward stop :=
  (advance start).trans within

end Cursor.Onward

namespace Parse

open Cursor Cursor.Onward

theorem attempt_of_parsed {parse : Parse Result} {start stop : Cursor} {value : Result}
    (parsed : parse start = .parsed value stop) :
    Parse.attempt parse start = .parsed (some value) stop := by
  rw [Parse.attempt, parsed]

theorem attempt_of_failed {parse : Parse Result} {start stop : Cursor}
    (failed : parse start = .failed stop) : Parse.attempt parse start = .parsed none stop := by
  rw [Parse.attempt, failed]

theorem Goes.attempt {both : Cursor → Cursor → Prop} {parse : Parse Result}
    (goes : parse.Goes both both) : (Parse.attempt parse).Goes both both := by
  intro start
  have after := goes start
  unfold Parse.attempt
  cases outcome : parse start <;> rw [outcome] at after
  · exact after
  · exact after
  · trivial

/-- What the readers of blocks share with those of expressions. -/
structure GoesOnward (budget : Nat) : Prop extends GoesWithin Onward Onward budget where
  block : (Block.parse budget).Goes Within Within
  row : (Block.parseStatements budget).Goes Onward Onward

namespace GoesOnward

theorem zero : GoesOnward 0 where
  toGoesWithin := .zero
  block _ := trivial
  row _ := trivial

variable {budget : Nat} (readers : GoesOnward budget)

include readers

theorem openBlock :
    (Parse.expect (.punctuation .openBrace) >>= fun _ => Block.parse budget).Goes Onward
      Onward := by
  refine course.openBlock fun start _ => ?_
  have inside := readers.block start.advance
  cases outcome : Block.parse budget start.advance with
  | unfinished => trivial
  | _ =>
      rw [outcome] at inside
      exact (Cursor.Onward.advance start).trans (Within.onward inside)

theorem block_succ : (Block.parse (budget + 1)).Goes Within Within := by
  intro start
  rw [Block.parse]
  change ((Block.parseStatements budget >>= _) start.advance).Goes Onward Onward start.advance
  refine course.bind readers.row (fun statements => .current_bind fun found => ?_) start.advance
  split
  · exact course.pure _
  · exact course.stop _

theorem row_succ : (Block.parseStatements (budget + 1)).Goes Onward Onward := by
  have advanced : Parse.advance.Goes Onward Onward := fun start => Cursor.Onward.advance start
  have skipped (stop : Token → Bool) : (Parse.skipTo stop).Goes Onward Onward :=
    fun start => Cursor.Onward.skipTo stop start
  unfold Block.parseStatements
  refine .current_bind fun token => ?_
  split
  · exact course.pure _
  · exact course.pure _
  · refine course.bind readers.statement.attempt fun attempted => ?_
    split
    · refine course.bind advanced fun _ => course.bind readers.row fun _ => course.pure _
    · refine course.bind (skipped _) fun _ => .current_bind fun found => ?_
      split
      · exact course.pure _
      · exact course.bind advanced fun _ => readers.row

end GoesOnward

theorem goesOnward (budget : Nat) : GoesOnward budget := by
  induction budget with
  | zero => exact .zero
  | succ budget readers =>
      exact {
        toGoesWithin := readers.succ course readers.openBlock
        block := readers.block_succ
        row := readers.row_succ }

end Parse

theorem Program.parseStatements_onward (budget : Nat) :
    (Program.parseStatements budget).Goes Cursor.Onward Cursor.Onward := by
  have course := Cursor.Onward.course
  induction budget with
  | zero => exact fun _ => trivial
  | succ budget ih =>
      unfold Program.parseStatements
      refine .current_bind fun token => ?_
      split
      · exact course.pure _
      · refine course.bind (goesOnward budget).statement.attempt fun attempted => ?_
        split
        · refine course.bind (fun start => .advance start) fun _ => course.bind ih fun _ => ?_
          exact course.pure _
        · refine course.bind (fun start => .skipTo _ start) fun _ => ?_
          exact course.bind (fun start => .advance start) fun _ => ih

end Monkey
