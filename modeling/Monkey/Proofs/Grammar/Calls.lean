import Monkey.Proofs.Grammar.Budget

/-!
# Which readers call which

The readers of statements and expressions call one another, and their loops call themselves, each
time from where the cursor stands. The script of a reader is what it does in one call: steps from
token to token, and calls of readers. A reading follows the script, with all calls on a smaller
budget (`Reader.read_succ`), and it runs out of its budget exactly if one of the calls that it makes
does (`Call.unfinished_succ`).
-/

namespace Monkey

/-- The readers that share a budget; the loops among them are `program`, `row`, which reads the
statements of a block, `operators`, `parameters` and `moreArguments`. -/
inductive Reader where
  | program
  | row
  | statement
  | block
  | expr (context : Precedence)
  | operators (context : Precedence) (left : Expr)
  | operand
  | unary (operator : Operator)
  | group
  | conditional
  | function
  | parameters
  | arguments
  | moreArguments

/-- A reader at a place. -/
structure Call where
  reader : Reader
  start : Cursor

namespace Reader

@[reducible]
def Result : Reader → Type
  | program | row => List Statement
  | statement => Statement
  | block => Block
  | parameters => List Identifier
  | arguments | moreArguments => List Expr
  | _ => Expr

/-- What a reader reads within a budget. -/
def read (budget : Nat) : (reader : Reader) → Parse reader.Result
  | program => Program.parseStatements budget
  | row => Block.parseStatements budget
  | statement => Statement.parse budget
  | block => Block.parse budget
  | expr context => Expr.parse budget context
  | operators context left => Expr.parseOperators budget context left
  | operand => Expr.parseOperand budget
  | unary operator => Expr.parseUnary budget operator
  | group => Expr.parseGroup budget
  | conditional => Expr.parseConditional budget
  | function => Expr.parseFunction budget
  | parameters => Identifier.parseMore budget
  | arguments => Expr.parseArguments budget
  | moreArguments => Expr.parseMoreArguments budget

end Reader

/-! ## Scripts -/

/-- What a reader does without calling another one. -/
inductive Step : Type → Type 1 where
  | current : Step Token
  | upcoming : Step Token
  | advance : Step Unit
  | skipTo (stop : Token → Bool) : Step Unit
  | expect (kind : Kind) : Step Unit
  | skipOptional (kind : Kind) : Step Unit
  | fail {Found : Type} (diagnostic : Diagnostic) : Step Found

def Step.run {Found : Type} : Step Found → Parse Found
  | current => Parse.current
  | upcoming => Parse.upcoming
  | advance => Parse.advance
  | skipTo stop => Parse.skipTo stop
  | expect kind => Parse.expect kind
  | skipOptional kind => Parse.skipOptional kind
  | fail diagnostic => Parse.fail diagnostic

/-- What a reader does in one call: steps and calls of readers, a failure of which ends the whole
unless it is turned into an answer. -/
inductive Script (Result : Type) : Type 1 where
  | done (value : Result)
  | stepThen {Found : Type} (step : Step Found) (next : Found → Script Result)
  | callThen (reader : Reader) (next : reader.Result → Script Result)
  | attemptThen (reader : Reader) (next : Option reader.Result → Script Result)

namespace Script

variable {Result Next : Type}

protected def bind : Script Result → (Result → Script Next) → Script Next
  | done value, rest => rest value
  | stepThen step next, rest => stepThen step fun found => (next found).bind rest
  | callThen reader next, rest => callThen reader fun value => (next value).bind rest
  | attemptThen reader next, rest =>
      attemptThen reader fun attempted => (next attempted).bind rest

instance : Monad Script where
  pure := done
  bind := Script.bind

def step {Found : Type} (step : Step Found) : Script Found :=
  stepThen step done

def call (reader : Reader) : Script reader.Result :=
  callThen reader done

def attempt (reader : Reader) : Script (Option reader.Result) :=
  attemptThen reader done

/-- The reading that a script describes, with a budget for the readers that it calls. -/
def read (budget : Nat) : Script Result → Parse Result
  | done value => pure value
  | stepThen step next => step.run >>= fun found => (next found).read budget
  | callThen reader next => reader.read budget >>= fun value => (next value).read budget
  | attemptThen reader next =>
      Parse.attempt (reader.read budget) >>= fun attempted => (next attempted).read budget

/-- The calls after a reading: none, unless it has succeeded. -/
def callsAfter (calls : Result → Cursor → List Call) : Outcome Result → List Call
  | .parsed value stop => calls value stop
  | _ => []

/-- The calls that are made in such a reading, in their order. -/
def calls (budget : Nat) : Script Result → Cursor → List Call
  | done _, _ => []
  | stepThen step next, start =>
      callsAfter (fun found => (next found).calls budget) (step.run start)
  | callThen reader next, start =>
      ⟨reader, start⟩ ::
        callsAfter (fun value => (next value).calls budget) (reader.read budget start)
  | attemptThen reader next, start =>
      ⟨reader, start⟩ :: callsAfter (fun attempted => (next attempted).calls budget)
        (Parse.attempt (reader.read budget) start)

end Script

open Script

namespace Reader

/-- The identifier that has to come next. -/
def identifier : Script Identifier := do
  step (.expect .ident)
  let token ← step .current
  return .ofToken token

/-- Statements up to the end of a program. -/
def programScript : Script (List Statement) := do
  match ← step .current with
  | .eof => return []
  | _ =>
      match ← attempt .statement with
      | some value =>
          step .advance
          let rest ← call .program
          return value :: rest
      | none =>
          step (.skipTo Token.endsStatement)
          step .advance
          call .program

/-- Statements up to the end of a block. -/
def rowScript : Script (List Statement) := do
  match ← step .current with
  | .punctuation .closeBrace => return []
  | .eof => return []
  | _ =>
      match ← attempt .statement with
      | some value =>
          step .advance
          let rest ← call .row
          return value :: rest
      | none =>
          step (.skipTo Token.endsStatementOfBlock)
          match ← step .current with
          | .punctuation .closeBrace => return []
          | _ =>
              step .advance
              call .row

def statementScript : Script Statement := do
  match ← step .current with
  | .keyword .letWord =>
      let name ← identifier
      step (.expect (.punctuation .assign))
      step .advance
      let value ← call (.expr .lowest)
      step (.skipOptional (.punctuation .semicolon))
      return .bind (.keyword .letWord) name value
  | .keyword .returnWord =>
      step .advance
      let value ← call (.expr .lowest)
      step (.skipOptional (.punctuation .semicolon))
      return .result (.keyword .returnWord) value
  | token =>
      let value ← call (.expr .lowest)
      step (.skipOptional (.punctuation .semicolon))
      return .expr token value

def blockScript : Script Block := do
  let token ← step .current
  step .advance
  let statements ← call .row
  match ← step .current with
  | .punctuation .closeBrace => return ⟨token, statements⟩
  | found => step (.fail (.unexpectedToken (.punctuation .closeBrace) found.kind))

def exprScript (context : Precedence) : Script Expr := do
  let left ← call .operand
  call (.operators context left)

def operatorsScript (context : Precedence) (left : Expr) : Script Expr := do
  match ← step .upcoming with
  | .operator operator =>
      if context < operator.precedence then
        step .advance
        step .advance
        let right ← call (.expr operator.precedence)
        call (.operators context (.binary (.operator operator) left operator right))
      else
        return left
  | .punctuation .openParen =>
      if context < .call then
        step .advance
        let values ← call .arguments
        call (.operators context (.call (.punctuation .openParen) left values))
      else
        return left
  | _ => return left

def operandScript : Script Expr := do
  match ← step .current with
  | .ident name => return .ident (.ofToken (.ident name))
  | .int digits =>
      match Decimal.int64? digits with
      | some value => return .int (.int digits) value
      | none => step (.fail (.invalidInteger digits))
  | .string text => return .string (.string text) text
  | .keyword .trueWord => return .bool (.keyword .trueWord) true
  | .keyword .falseWord => return .bool (.keyword .falseWord) false
  | .operator .bang => call (.unary .bang)
  | .operator .minus => call (.unary .minus)
  | .punctuation .openParen => call .group
  | .keyword .ifWord => call .conditional
  | .keyword .fnWord => call .function
  | token => step (.fail (.noExpression token.kind))

def unaryScript (operator : Operator) : Script Expr := do
  step .advance
  let value ← call (.expr .unary)
  return .unary (.operator operator) operator value

def groupScript : Script Expr := do
  step .advance
  let value ← call (.expr .lowest)
  step (.expect (.punctuation .closeParen))
  return value

def conditionalScript : Script Expr := do
  step (.expect (.punctuation .openParen))
  step .advance
  let condition ← call (.expr .lowest)
  step (.expect (.punctuation .closeParen))
  step (.expect (.punctuation .openBrace))
  let consequence ← call .block
  match ← step .upcoming with
  | .keyword .elseWord =>
      step .advance
      step (.expect (.punctuation .openBrace))
      let alternative ← call .block
      return .conditional (.keyword .ifWord) condition consequence (some alternative)
  | _ => return .conditional (.keyword .ifWord) condition consequence none

/-- The parameters of a function, from the opening parenthesis to the closing one. -/
def parameterList : Script (List Identifier) := do
  match ← step .upcoming with
  | .punctuation .closeParen =>
      step .advance
      return []
  | _ =>
      let parameter ← identifier
      let rest ← call .parameters
      return parameter :: rest

def functionScript : Script Expr := do
  step (.expect (.punctuation .openParen))
  let names ← parameterList
  step (.expect (.punctuation .openBrace))
  let body ← call .block
  return .function (.keyword .fnWord) names body

def parametersScript : Script (List Identifier) := do
  match ← step .upcoming with
  | .punctuation .comma =>
      step .advance
      let parameter ← identifier
      let rest ← call .parameters
      return parameter :: rest
  | _ =>
      step (.expect (.punctuation .closeParen))
      return []

def argumentsScript : Script (List Expr) := do
  match ← step .upcoming with
  | .punctuation .closeParen =>
      step .advance
      return []
  | _ =>
      step .advance
      let argument ← call (.expr .lowest)
      let rest ← call .moreArguments
      return argument :: rest

def moreArgumentsScript : Script (List Expr) := do
  match ← step .upcoming with
  | .punctuation .comma =>
      step .advance
      step .advance
      let argument ← call (.expr .lowest)
      let rest ← call .moreArguments
      return argument :: rest
  | _ =>
      step (.expect (.punctuation .closeParen))
      return []

/-- What a reader does in one call. -/
def script : (reader : Reader) → Script reader.Result
  | program => programScript
  | row => rowScript
  | statement => statementScript
  | block => blockScript
  | expr context => exprScript context
  | operators context left => operatorsScript context left
  | operand => operandScript
  | unary operator => unaryScript operator
  | group => groupScript
  | conditional => conditionalScript
  | function => functionScript
  | parameters => parametersScript
  | arguments => argumentsScript
  | moreArguments => moreArgumentsScript

end Reader

/-! ## The scripts are those of the readers -/

theorem Parse.bind_pure {Result : Type} (parse : Parse Result) : parse >>= pure = parse := by
  funext start
  change Parse.bind parse pure start = _
  unfold Parse.bind
  cases parse start <;> rfl

namespace Script

variable {Result Next : Type} (budget : Nat)

theorem bind_assoc {Final : Type} (first : Script Result) (second : Result → Script Next)
    (third : Next → Script Final) :
    first >>= second >>= third = first >>= fun value => second value >>= third := by
  induction first with
  | done value => rfl
  | stepThen step rest ih => exact congrArg (stepThen step) (funext ih)
  | callThen reader rest ih => exact congrArg (callThen reader) (funext ih)
  | attemptThen reader rest ih => exact congrArg (attemptThen reader) (funext ih)

theorem read_step {Found : Type} (step : Step Found) :
    (Script.step step).read budget = step.run :=
  Parse.bind_pure _

theorem read_call (reader : Reader) : (call reader).read budget = reader.read budget :=
  Parse.bind_pure _

theorem read_attempt (reader : Reader) :
    (attempt reader).read budget = Parse.attempt (reader.read budget) :=
  Parse.bind_pure _

theorem read_bind (first : Script Result)
    (next : Result → Script Next) :
    (first >>= next).read budget = first.read budget >>= fun value => (next value).read budget := by
  induction first with
  | done value => rfl
  | stepThen step rest ih =>
      exact (bind_congr ih).trans (Parse.bind_assoc _ _ _).symm
  | callThen reader rest ih =>
      exact (bind_congr ih).trans (Parse.bind_assoc _ _ _).symm
  | attemptThen reader rest ih =>
      exact (bind_congr ih).trans (Parse.bind_assoc _ _ _).symm

end Script

namespace Reader

variable (budget : Nat)

theorem read_identifier : identifier.read budget = Identifier.parse :=
  rfl

theorem program_succ : Program.parseStatements (budget + 1) = programScript.read budget := by
  refine bind_congr fun token => ?_
  cases token with
  | eof => rfl
  | _ =>
      refine bind_congr fun attempted => ?_
      cases attempted with
      | some value => rfl
      | none => exact bind_congr fun _ => bind_congr fun _ => (read_call budget .program).symm

theorem row_succ : Block.parseStatements (budget + 1) = rowScript.read budget := by
  rw [Block.parseStatements, rowScript, read_bind]
  refine bind_congr fun token => ?_
  cases token
  case eof => rfl
  case' punctuation mark => cases mark
  case punctuation.closeBrace => rfl
  all_goals
    dsimp only
    rw [read_bind, read_attempt]
    refine bind_congr fun attempted => ?_
    cases attempted with
    | some value => rfl
    | none =>
        simp only [read_bind, read_step]
        refine bind_congr fun _ => bind_congr fun found => ?_
        have onward : (Parse.advance >>= fun _ => Block.parseStatements budget) =
            (step .advance >>= fun _ => call .row).read budget :=
          bind_congr fun _ => (read_call budget .row).symm
        cases found with
        | punctuation mark =>
            cases mark with
            | closeBrace => rfl
            | _ => exact onward
        | _ => exact onward

theorem statement_succ : Statement.parse (budget + 1) = statementScript.read budget := by
  rw [Statement.parse, statementScript, read_bind]
  refine bind_congr fun token => ?_
  cases token with
  | keyword word =>
      cases word with
      | letWord =>
          dsimp only
          rw [read_bind, read_identifier]
          rfl
      | _ => rfl
  | _ => rfl

theorem block_succ : Block.parse (budget + 1) = blockScript.read budget := by
  rw [Block.parse]
  refine bind_congr fun _ => bind_congr fun _ => bind_congr fun _ => bind_congr fun found => ?_
  cases found with
  | punctuation mark => cases mark <;> rfl
  | _ => rfl

theorem expr_succ (context : Precedence) :
    Expr.parse (budget + 1) context = (exprScript context).read budget := by
  rw [Expr.parse]
  exact bind_congr fun left => (read_call budget (.operators context left)).symm

theorem operators_succ (context : Precedence) (left : Expr) :
    Expr.parseOperators (budget + 1) context left =
      (operatorsScript context left).read budget := by
  have onward (left : Expr) := (read_call budget (.operators context left)).symm
  rw [Expr.parseOperators]
  refine bind_congr fun token => ?_
  cases token with
  | operator sign =>
      refine Eq.trans ?_ (apply_ite (Script.read budget) _ _ _).symm
      refine ite_congr rfl (fun _ => ?_) fun _ => rfl
      exact bind_congr fun _ => bind_congr fun _ => bind_congr fun _ => onward _
  | punctuation mark =>
      cases mark with
      | openParen =>
          refine Eq.trans ?_ (apply_ite (Script.read budget) _ _ _).symm
          refine ite_congr rfl (fun _ => ?_) fun _ => rfl
          exact bind_congr fun _ => bind_congr fun _ => onward _
      | _ => rfl
  | _ => rfl

theorem operand_succ : Expr.parseOperand (budget + 1) = operandScript.read budget := by
  rw [Expr.parseOperand, operandScript, read_bind]
  refine bind_congr fun token => ?_
  cases token with
  | int digits =>
      dsimp only
      cases Decimal.int64? digits <;> rfl
  | operator sign =>
      cases sign with
      | bang => exact (read_call budget (.unary .bang)).symm
      | minus => exact (read_call budget (.unary .minus)).symm
      | _ => rfl
  | punctuation mark =>
      cases mark with
      | openParen => exact (read_call budget .group).symm
      | _ => rfl
  | keyword word =>
      cases word with
      | ifWord => exact (read_call budget .conditional).symm
      | fnWord => exact (read_call budget .function).symm
      | _ => rfl
  | _ => rfl

theorem conditional_succ :
    Expr.parseConditional (budget + 1) = conditionalScript.read budget := by
  rw [Expr.parseConditional]
  refine bind_congr fun _ => bind_congr fun _ => bind_congr fun _ => bind_congr fun _ => ?_
  refine bind_congr fun _ => bind_congr fun _ => bind_congr fun token => ?_
  cases token with
  | keyword word => cases word <;> rfl
  | _ => rfl

theorem parseList_eq : Identifier.parseList budget = parameterList.read budget := by
  have further := (read_bind budget identifier fun first =>
    call .parameters >>= fun rest => pure (first :: rest)).symm
  refine bind_congr fun token => ?_
  cases token with
  | punctuation mark =>
      cases mark with
      | closeParen => rfl
      | _ => exact further
  | _ => exact further

theorem function_succ : Expr.parseFunction (budget + 1) = functionScript.read budget := by
  rw [Expr.parseFunction, functionScript, read_bind, read_step]
  refine bind_congr fun _ => ?_
  rw [read_bind, parseList_eq]
  rfl

theorem parameters_succ : Identifier.parseMore (budget + 1) = parametersScript.read budget := by
  rw [Identifier.parseMore, parametersScript, read_bind]
  refine bind_congr fun token => ?_
  cases token with
  | punctuation mark =>
      cases mark with
      | comma =>
          dsimp only
          rw [read_bind]
          refine bind_congr fun _ => ?_
          rw [read_bind, read_identifier]
          rfl
      | _ => rfl
  | _ => rfl

theorem arguments_succ : Expr.parseArguments (budget + 1) = argumentsScript.read budget := by
  rw [Expr.parseArguments]
  refine bind_congr fun token => ?_
  cases token with
  | punctuation mark => cases mark <;> rfl
  | _ => rfl

theorem moreArguments_succ :
    Expr.parseMoreArguments (budget + 1) = moreArgumentsScript.read budget := by
  rw [Expr.parseMoreArguments]
  refine bind_congr fun token => ?_
  cases token with
  | punctuation mark => cases mark <;> rfl
  | _ => rfl

/-- A reading follows the script of its reader. -/
theorem read_succ (reader : Reader) : reader.read (budget + 1) = reader.script.read budget := by
  cases reader with
  | program => exact program_succ budget
  | row => exact row_succ budget
  | statement => exact statement_succ budget
  | block => exact block_succ budget
  | expr context => exact expr_succ budget context
  | operators context left => exact operators_succ budget context left
  | operand => exact operand_succ budget
  | unary operator => exact Expr.parseUnary.eq_2 operator budget
  | group => exact Expr.parseGroup.eq_2 budget
  | conditional => exact conditional_succ budget
  | function => exact function_succ budget
  | parameters => exact parameters_succ budget
  | arguments => exact arguments_succ budget
  | moreArguments => exact moreArguments_succ budget

end Reader

/-! ## Budgets -/

theorem Step.run_ne_unfinished {Found : Type} (step : Step Found) (start : Cursor) :
    step.run start ≠ .unfinished := by
  cases step with
  | expect kind =>
      change Parse.expect kind start ≠ _
      unfold Parse.expect
      split <;> simp
  | skipOptional kind =>
      change Parse.skipOptional kind start ≠ _
      unfold Parse.skipOptional
      split <;> simp
  | _ => exact fun same => nomatch same

theorem Parse.bind_eq_unfinished {Result Next : Type} {first : Parse Result}
    {next : Result → Parse Next} {start : Cursor} :
    (first >>= next) start = .unfinished ↔ first start = .unfinished ∨
      ∃ value middle, first start = .parsed value middle ∧ next value middle = .unfinished := by
  change Parse.bind first next start = _ ↔ _
  unfold Parse.bind
  cases first start with
  | parsed value middle =>
      constructor
      · exact fun same => .inr ⟨value, middle, rfl, same⟩
      · rintro (same | ⟨_, _, ⟨⟩, same⟩)
        · exact nomatch same
        · exact same
  | _ => simp

theorem Parse.attempt_eq_unfinished {Result : Type} {parse : Parse Result} {start : Cursor} :
    Parse.attempt parse start = .unfinished ↔ parse start = .unfinished := by
  unfold Parse.attempt
  cases parse start <;> simp

/-- Whether the reading of a call runs out of a budget. -/
def Call.Unfinished (budget : Nat) (call : Call) : Prop :=
  call.reader.read budget call.start = .unfinished

namespace Script

variable {Result : Type} {budget : Nat}

theorem unfinished_after {Found : Type} {next : Found → Script Result} {outcome : Outcome Found}
    (after : ∀ value stop, (next value).read budget stop = .unfinished ↔
      ∃ callee ∈ (next value).calls budget stop, callee.Unfinished budget) :
    (∃ value stop, outcome = .parsed value stop ∧ (next value).read budget stop = .unfinished) ↔
      ∃ callee ∈ callsAfter (fun value => (next value).calls budget) outcome,
        callee.Unfinished budget := by
  cases outcome with
  | parsed value stop =>
      refine ⟨?_, fun within => ⟨value, stop, rfl, (after value stop).mpr within⟩⟩
      rintro ⟨_, _, ⟨⟩, same⟩
      exact (after value stop).mp same
  | _ => simp [callsAfter]

theorem unfinished_iff (script : Script Result) (start : Cursor) :
    script.read budget start = .unfinished ↔
      ∃ callee ∈ script.calls budget start, callee.Unfinished budget := by
  induction script generalizing start with
  | done value =>
      constructor
      · exact fun same => nomatch same
      · rintro ⟨_, ⟨⟩, _⟩
  | stepThen step next ih =>
      rw [read, Parse.bind_eq_unfinished, or_iff_right (step.run_ne_unfinished start)]
      exact unfinished_after ih
  | callThen reader next ih =>
      rw [read, Parse.bind_eq_unfinished, unfinished_after ih, calls]
      simp only [List.mem_cons, exists_eq_or_imp, Call.Unfinished]
  | attemptThen reader next ih =>
      rw [read, Parse.bind_eq_unfinished, Parse.attempt_eq_unfinished, unfinished_after ih, calls]
      simp only [List.mem_cons, exists_eq_or_imp, Call.Unfinished]

end Script

namespace Call

/-- The calls that the reading of a call makes within a budget, in their order. -/
def callees (budget : Nat) (call : Call) : List Call :=
  call.reader.script.calls budget call.start

/-- A reading runs out of its budget exactly if one of the calls that it makes runs out of the
smaller one that it leaves them. -/
theorem unfinished_succ (budget : Nat) (call : Call) :
    call.Unfinished (budget + 1) ↔ ∃ callee ∈ call.callees budget, callee.Unfinished budget := by
  rw [Unfinished, Reader.read_succ]
  exact call.reader.script.unfinished_iff call.start

end Call

end Monkey
