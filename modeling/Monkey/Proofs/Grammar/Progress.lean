import Mathlib.Logic.Relation
import Monkey.Proofs.Grammar.Calls
import Monkey.Proofs.Grammar.Course
import Monkey.Proofs.Grammar.Locality

/-!
# Reading makes progress

A reader that is called where its caller stands is of a lower level than the caller, and every other
call is made farther on. So a call within a call of the same reader, whether the reader loops or
recurs through others, is made farther on, and no chain of calls goes on for ever. The skipping of a
malformed statement stops or moves on, too.
-/

namespace Monkey

open Parse

/-- Whether a cursor is farther on than another one. -/
structure Cursor.MovesTo (start stop : Cursor) : Prop where
  onward : start.Onward stop
  fewer : stop.remaining.length < start.remaining.length

namespace Cursor

/-- Whether a cursor is where another one gets to, with at most some number of tokens left. -/
structure Nears (start : Cursor) (limit : Nat) (stop : Cursor) : Prop where
  onward : start.Onward stop
  few : stop.remaining.length ≤ limit

variable {origin start stop : Cursor} {limit : Nat}

theorem Onward.length_le (onward : start.Onward stop) :
    stop.remaining.length ≤ start.remaining.length :=
  onward.remaining.length_le

theorem Nears.onwards (nears : origin.Nears limit start) (onward : start.Onward stop) :
    origin.Nears limit stop :=
  ⟨nears.onward.trans onward, Nat.le_trans onward.length_le nears.few⟩

theorem Nears.advance (nears : origin.Nears limit start) :
    origin.Nears (limit - 1) start.advance := by
  refine ⟨nears.onward.trans (.advance start), ?_⟩
  have few := nears.few
  change start.remaining.tail.length ≤ limit - 1
  rw [List.length_tail]
  omega

/-- A token other than the end mark counts among those that are left. -/
theorem Nears.one_le (nears : origin.Nears limit start) (real : start.current ≠ .eof) :
    1 ≤ limit := by
  have few := nears.few
  cases shape : start.remaining with
  | nil => exact absurd (by simp [current, shape]) real
  | cons token tokens =>
      rw [shape, List.length_cons] at few
      omega

theorem Nears.two_le (nears : origin.Nears limit start) (real : start.upcoming ≠ .eof) :
    2 ≤ limit := by
  have one := nears.advance.one_le real
  omega

end Cursor

/-! ## Levels -/

/-- The order in which readers call one another without a step: only those of a lower level are
called from where a reader stands. -/
def Reader.level : Reader → Nat
  | block => 6
  | program | row => 5
  | statement | arguments => 4
  | expr _ => 3
  | operand => 2
  | _ => 1

/-- Whether a reader starts with a step over a token that its caller has found. -/
def Reader.stepsOver : Reader → Bool
  | unary _ | group => true
  | _ => false

namespace Call

/-- Whether there is a token to step over for a reader that starts with such a step. -/
def Ready (call : Call) : Prop :=
  call.reader.stepsOver = true → call.start.remaining ≠ []

/-- Whether a call may be made within another one: it is made farther on, or its reader is of a
lower level. -/
structure Within (outer inner : Call) : Prop where
  ready : inner.Ready
  onward : outer.start.Onward inner.start
  descends : inner.start.remaining.length < outer.start.remaining.length ∨
    inner.reader.level < outer.reader.level

theorem Within.trans {outer middle inner : Call} (first : outer.Within middle)
    (next : middle.Within inner) : outer.Within inner := by
  refine ⟨next.ready, first.onward.trans next.onward, ?_⟩
  have few := first.onward.length_le
  have fewer := next.onward.length_le
  rcases first.descends with moved | lower <;> rcases next.descends with moved' | lower' <;> omega

/-- A call of a reader of the same level, or a higher one, is made farther on. -/
theorem Within.movesTo {outer inner : Call} (within : outer.Within inner)
    (level : outer.reader.level ≤ inner.reader.level) : outer.start.MovesTo inner.start :=
  ⟨within.onward, within.descends.resolve_right (Nat.not_lt.mpr level)⟩

end Call

/-! ## What scripts call -/

theorem Step.run_onward {Found : Type} (step : Step Found) :
    step.run.Goes Cursor.Onward Cursor.Onward := by
  have course := Cursor.Onward.course
  cases step with
  | current => exact course.refl
  | upcoming => exact course.refl
  | advance => exact .advance
  | skipTo stop => exact .skipTo stop
  | expect kind =>
      intro start
      change (Parse.expect kind start).Goes _ _ _
      unfold Parse.expect
      split
      · exact .advance start
      · exact .report start _
  | skipOptional kind =>
      intro start
      change (Parse.skipOptional kind start).Goes _ _ _
      unfold Parse.skipOptional
      split
      · exact .advance start
      · exact .refl start
  | fail diagnostic => exact course.stop diagnostic

theorem Reader.read_onward (budget : Nat) (reader : Reader) :
    (reader.read budget).Goes Cursor.Onward Cursor.Onward := by
  have readers := goesOnward budget
  cases reader with
  | program => exact Program.parseStatements_onward budget
  | row => exact readers.row
  | statement => exact readers.statement
  | block =>
      intro start
      have inside := readers.block start
      change (Block.parse budget start).Goes _ _ _
      cases outcome : Block.parse budget start with
      | unfinished => trivial
      | _ =>
          rw [outcome] at inside
          exact Cursor.Onward.Within.onward inside
  | expr context => exact readers.expr context
  | operators context left => exact readers.operators context left
  | operand => exact readers.operand
  | unary operator => exact readers.unary operator
  | group => exact readers.group
  | conditional => exact readers.conditional
  | function => exact readers.function
  | parameters => exact Cursor.Onward.course.moreParameters budget
  | arguments => exact readers.arguments
  | moreArguments => exact readers.moreArguments

namespace Script

variable {Result Next Found : Type} {budget limit : Nat} {caller : Reader} {origin : Cursor}

/-- Whether all calls that a script makes from where at most some number of tokens are left may be
made within that of a given reader. -/
def Descends (budget : Nat) (caller : Reader) (origin : Cursor) (limit : Nat)
    (script : Script Result) : Prop :=
  ∀ start, origin.Nears limit start →
    ∀ callee ∈ script.calls budget start, Call.Within ⟨caller, origin⟩ callee

namespace Descends

theorem pure (value : Result) :
    (Pure.pure value : Script Result).Descends budget caller origin limit :=
  fun _ _ _ member => nomatch member

theorem fail (diagnostic : Diagnostic) :
    (step (.fail diagnostic) : Script Result).Descends budget caller origin limit :=
  fun _ _ _ member => nomatch member

/-- What follows a step, wherever that leaves the cursor. -/
theorem step_bind {step : Step Found} {next : Found → Script Next}
    (descends : ∀ start found stop, origin.Nears limit start →
      step.run start = .parsed found stop →
        ∀ callee ∈ (next found).calls budget stop, Call.Within ⟨caller, origin⟩ callee) :
    (Script.step step >>= next).Descends budget caller origin limit := by
  intro start nears callee made
  change callee ∈ callsAfter (fun found => (next found).calls budget) (step.run start) at made
  cases outcome : step.run start with
  | parsed found stop =>
      rw [outcome] at made
      exact descends start found stop nears outcome callee made
  | _ =>
      rw [outcome] at made
      cases made

theorem current_bind {next : Token → Script Next}
    (descends : ∀ token, (token ≠ .eof → 1 ≤ limit) →
      (next token).Descends budget caller origin limit) :
    (step .current >>= next).Descends budget caller origin limit := by
  refine step_bind fun start found stop nears outcome => ?_
  cases outcome
  exact descends _ nears.one_le start nears

theorem upcoming_bind {next : Token → Script Next}
    (descends : ∀ token, (token ≠ .eof → 2 ≤ limit) →
      (next token).Descends budget caller origin limit) :
    (step .upcoming >>= next).Descends budget caller origin limit := by
  refine step_bind fun start found stop nears outcome => ?_
  cases outcome
  exact descends _ nears.two_le start nears

theorem advance_bind {next : Unit → Script Next}
    (descends : (next ()).Descends budget caller origin (limit - 1)) :
    (step .advance >>= next).Descends budget caller origin limit := by
  refine step_bind fun start found stop nears outcome => ?_
  cases outcome
  exact descends _ nears.advance

/-- What follows a reading that goes onward. -/
theorem after {parse : Parse Found} {next : Found → Script Next}
    (onward : parse.Goes Cursor.Onward Cursor.Onward)
    (descends : ∀ found, (next found).Descends budget caller origin limit) {start : Cursor}
    (nears : origin.Nears limit start) :
    ∀ callee ∈ callsAfter (fun found => (next found).calls budget) (parse start),
      Call.Within ⟨caller, origin⟩ callee := by
  intro callee made
  have goes := onward start
  cases outcome : parse start with
  | parsed found stop =>
      rw [outcome] at made goes
      exact descends found stop (nears.onwards goes) callee made
  | _ =>
      rw [outcome] at made
      cases made

theorem stay_bind {step : Step Found} {next : Found → Script Next}
    (descends : ∀ found, (next found).Descends budget caller origin limit) :
    (Script.step step >>= next).Descends budget caller origin limit :=
  fun _ nears => after step.run_onward descends nears

theorem expect_bind {kind : Kind} {next : Unit → Script Next} (real : kind ≠ .eof)
    (descends : 2 ≤ limit → (next ()).Descends budget caller origin (limit - 1)) :
    (step (.expect kind) >>= next).Descends budget caller origin limit := by
  refine step_bind fun start found stop nears outcome => ?_
  change Parse.expect kind start = _ at outcome
  unfold Parse.expect at outcome
  split at outcome
  · next same =>
      cases outcome
      refine descends (nears.two_le fun ended => real ?_) _ nears.advance
      rw [← same, ended]
      rfl
  · cases outcome

theorem identifier_bind {next : Identifier → Script Next}
    (descends : ∀ name, 2 ≤ limit → (next name).Descends budget caller origin (limit - 1)) :
    (Reader.identifier >>= next).Descends budget caller origin limit :=
  expect_bind (by simp) fun two => current_bind fun _ _ => descends _ two

section Call

variable {reader : Reader} (plain : reader.stepsOver = false)
  (lower : limit < origin.remaining.length ∨ reader.level < caller.level)

include plain lower

theorem within {start : Cursor} (nears : origin.Nears limit start) :
    Call.Within ⟨caller, origin⟩ ⟨reader, start⟩ := by
  refine ⟨fun steps => ?_, nears.onward, lower.imp_left (Nat.lt_of_le_of_lt nears.few)⟩
  rw [plain] at steps
  cases steps

theorem call_bind {next : reader.Result → Script Next}
    (descends : ∀ value, (next value).Descends budget caller origin limit) :
    (call reader >>= next).Descends budget caller origin limit := by
  intro start nears
  refine List.forall_mem_cons.mpr ⟨within plain lower nears, ?_⟩
  exact after (reader.read_onward budget) descends nears

theorem call : (Script.call reader).Descends budget caller origin limit :=
  call_bind plain lower pure

theorem attempt_bind {next : Option reader.Result → Script Next}
    (descends : ∀ attempted, (next attempted).Descends budget caller origin limit) :
    (attempt reader >>= next).Descends budget caller origin limit := by
  intro start nears
  refine List.forall_mem_cons.mpr ⟨within plain lower nears, ?_⟩
  exact after (reader.read_onward budget).attempt descends nears

end Call

end Descends

end Script

/-! ## What readers call -/

namespace Reader

open Script.Descends

variable (budget : Nat) (start : Cursor)

theorem program_descends :
    programScript.Descends budget program start start.remaining.length := by
  unfold programScript
  refine current_bind fun token real => ?_
  split
  · exact .pure _
  · next notEnd =>
      have one := real notEnd
      have moved : start.remaining.length - 1 < start.remaining.length := by omega
      refine attempt_bind rfl (.inr (by decide)) fun attempted => ?_
      split
      · exact advance_bind (call_bind rfl (.inl moved) fun _ => .pure _)
      -- What is skipped may be nothing; the step behind it moves the loop on in any case.
      · exact stay_bind fun _ => advance_bind (call rfl (.inl moved))

theorem row_descends : rowScript.Descends budget row start start.remaining.length := by
  unfold rowScript
  refine current_bind fun token real => ?_
  split
  · exact .pure _
  · exact .pure _
  · next notClose notEnd =>
      have one := real notEnd
      have moved : start.remaining.length - 1 < start.remaining.length := by omega
      refine attempt_bind rfl (.inr (by decide)) fun attempted => ?_
      split
      · exact advance_bind (call_bind rfl (.inl moved) fun _ => .pure _)
      · refine stay_bind fun _ => current_bind fun found _ => ?_
        split
        · exact .pure _
        · exact advance_bind (call rfl (.inl moved))

theorem statement_descends :
    statementScript.Descends budget statement start start.remaining.length := by
  have lower {limit : Nat} : limit < start.remaining.length ∨
      (expr .lowest).level < statement.level := .inr (by decide)
  unfold statementScript
  refine current_bind fun token _ => ?_
  split
  · refine identifier_bind fun _ _ => expect_bind (by simp) fun _ => advance_bind ?_
    exact call_bind rfl lower fun _ => stay_bind fun _ => .pure _
  · exact advance_bind (call_bind rfl lower fun _ => stay_bind fun _ => .pure _)
  · exact call_bind rfl lower fun _ => stay_bind fun _ => .pure _

theorem block_descends : blockScript.Descends budget block start start.remaining.length := by
  unfold blockScript
  refine stay_bind fun _ => advance_bind (call_bind rfl (.inr (by decide)) fun _ => ?_)
  refine current_bind fun found _ => ?_
  split
  · exact .pure _
  · exact .fail _

theorem expr_descends (context : Precedence) :
    (exprScript context).Descends budget (expr context) start start.remaining.length := by
  refine call_bind rfl (.inr ?_) fun _ => call rfl (.inr ?_)
  · exact (by decide : 2 < 3)
  · exact (by decide : 1 < 3)

theorem operators_descends (context : Precedence) (left : Expr) :
    (operatorsScript context left).Descends budget (operators context left) start
      start.remaining.length := by
  unfold operatorsScript
  refine upcoming_bind fun token real => ?_
  split
  · have two := real (by simp)
    have moved : start.remaining.length - 1 - 1 < start.remaining.length := by omega
    split
    · refine advance_bind (advance_bind (call_bind rfl (.inl moved) fun _ => ?_))
      exact call rfl (.inl moved)
    · exact .pure _
  · have two := real (by simp)
    have moved : start.remaining.length - 1 < start.remaining.length := by omega
    split
    · exact advance_bind (call_bind rfl (.inl moved) fun _ => call rfl (.inl moved))
    · exact .pure _
  · exact .pure _

theorem unary_descends (operator : Operator) (ready : start.remaining ≠ []) :
    (unaryScript operator).Descends budget (unary operator) start start.remaining.length := by
  have moved := Nat.sub_one_lt (mt List.length_eq_zero_iff.mp ready)
  exact advance_bind (call_bind rfl (.inl moved) fun _ => .pure _)

theorem group_descends (ready : start.remaining ≠ []) :
    groupScript.Descends budget group start start.remaining.length := by
  have moved := Nat.sub_one_lt (mt List.length_eq_zero_iff.mp ready)
  refine advance_bind (call_bind rfl (.inl moved) fun _ => ?_)
  exact expect_bind (by simp) fun _ => .pure _

theorem conditional_descends :
    conditionalScript.Descends budget conditional start start.remaining.length := by
  unfold conditionalScript
  refine expect_bind (by simp) fun two => advance_bind ?_
  refine call_bind rfl (.inl (by omega)) fun _ => ?_
  refine stay_bind fun _ => stay_bind fun _ => call_bind rfl (.inl (by omega)) fun _ => ?_
  refine upcoming_bind fun token _ => ?_
  split
  · refine advance_bind (stay_bind fun _ => call_bind rfl (.inl (by omega)) fun _ => .pure _)
  · exact .pure _

theorem arguments_descends :
    argumentsScript.Descends budget arguments start start.remaining.length := by
  unfold argumentsScript
  refine upcoming_bind fun token _ => ?_
  split
  · exact advance_bind (.pure _)
  · refine advance_bind (call_bind rfl (.inr (by decide)) fun _ => ?_)
    exact call_bind rfl (.inr (by decide)) fun _ => .pure _

theorem moreArguments_descends :
    moreArgumentsScript.Descends budget moreArguments start start.remaining.length := by
  unfold moreArgumentsScript
  refine upcoming_bind fun token real => ?_
  split
  · have two := real (by simp)
    refine advance_bind (advance_bind (call_bind rfl (.inl (by omega)) fun _ => ?_))
    exact call_bind rfl (.inl (by omega)) fun _ => .pure _
  · exact stay_bind fun _ => .pure _

theorem parameters_descends :
    parametersScript.Descends budget parameters start start.remaining.length := by
  unfold parametersScript
  refine upcoming_bind fun token real => ?_
  split
  · have two := real (by simp)
    refine advance_bind (identifier_bind fun _ _ => ?_)
    exact call_bind rfl (.inl (by omega)) fun _ => .pure _
  · exact stay_bind fun _ => .pure _

theorem function_descends :
    functionScript.Descends budget function start start.remaining.length := by
  unfold functionScript
  refine expect_bind (by simp) fun two => ?_
  have moved : start.remaining.length - 1 < start.remaining.length := by omega
  rw [parameterList, Script.bind_assoc]
  refine upcoming_bind fun token _ => ?_
  split
  · rw [Script.bind_assoc]
    exact advance_bind (stay_bind fun _ => call_bind rfl (.inl (by omega)) fun _ => .pure _)
  · rw [Script.bind_assoc]
    refine identifier_bind fun _ _ => ?_
    rw [Script.bind_assoc]
    refine call_bind rfl (.inl (by omega)) fun _ => ?_
    exact stay_bind fun _ => call_bind rfl (.inl (by omega)) fun _ => .pure _

/-- An operand calls at most one reader, which starts on the token that the operand starts on. -/
theorem operand_descends :
    operandScript.Descends budget operand start start.remaining.length := by
  unfold operandScript
  refine step_bind fun place token stop nears outcome => ?_
  cases outcome
  have within (reader : Reader) (lower : reader.level < operand.level)
      (real : place.current ≠ .eof) :
      ∀ callee ∈ (Script.call reader).calls budget place, Call.Within ⟨operand, start⟩ callee := by
    refine List.forall_mem_cons.mpr ⟨⟨fun _ empty => real ?_, nears.onward, .inr lower⟩, ?_⟩
    · rw [Cursor.current, empty]
      rfl
    · exact after (reader.read_onward budget) (fun value => .pure value) nears
  generalize place.current = token at within
  split
  · exact Script.Descends.pure _ place nears
  · split
    · exact Script.Descends.pure _ place nears
    · exact Script.Descends.fail _ place nears
  · exact Script.Descends.pure _ place nears
  · exact Script.Descends.pure _ place nears
  · exact Script.Descends.pure _ place nears
  · exact within (unary .bang) (by decide) (by simp)
  · exact within (unary .minus) (by decide) (by simp)
  · exact within group (by decide) (by simp)
  · exact within conditional (by decide) (by simp)
  · exact within function (by decide) (by simp)
  · exact Script.Descends.fail _ place nears

end Reader

namespace Call

theorem within_of_callee {budget : Nat} {call callee : Call} (ready : call.Ready)
    (made : callee ∈ call.callees budget) : call.Within callee := by
  rcases call with ⟨reader, start⟩
  have nears : start.Nears start.remaining.length start := ⟨.refl start, Nat.le_refl _⟩
  cases reader with
  | program => exact Reader.program_descends budget start start nears callee made
  | row => exact Reader.row_descends budget start start nears callee made
  | statement => exact Reader.statement_descends budget start start nears callee made
  | block => exact Reader.block_descends budget start start nears callee made
  | expr context => exact Reader.expr_descends budget start context start nears callee made
  | operators context left =>
      exact Reader.operators_descends budget start context left start nears callee made
  | operand => exact Reader.operand_descends budget start start nears callee made
  | unary operator =>
      exact Reader.unary_descends budget start operator (ready rfl) start nears callee made
  | group => exact Reader.group_descends budget start (ready rfl) start nears callee made
  | conditional => exact Reader.conditional_descends budget start start nears callee made
  | function => exact Reader.function_descends budget start start nears callee made
  | parameters => exact Reader.parameters_descends budget start start nears callee made
  | arguments => exact Reader.arguments_descends budget start start nears callee made
  | moreArguments => exact Reader.moreArguments_descends budget start start nears callee made

/-- Whether a call makes another one, within some budget. -/
def Calls (call callee : Call) : Prop :=
  ∃ budget, callee ∈ call.callees budget

theorem within_of_calls {call callee : Call} (ready : call.Ready) (calls : call.Calls callee) :
    call.Within callee := by
  rcases calls with ⟨budget, made⟩
  exact within_of_callee ready made

/-- By induction on the chain of calls: every call in it is ready for the next one. -/
theorem within_of_chain {call callee : Call} (ready : call.Ready)
    (chain : Relation.TransGen Calls call callee) : call.Within callee := by
  induction chain with
  | single calls => exact within_of_calls ready calls
  | tail _ calls ih => exact ih.trans (within_of_calls ih.ready calls)

/-- How far the calls of a call can go on: down the levels, and on by a token. -/
def rank (call : Call) : Nat :=
  7 * call.start.remaining.length + call.reader.level

theorem Within.rank_lt {outer inner : Call} (within : outer.Within inner) :
    inner.rank < outer.rank := by
  have few := within.onward.length_le
  have level : inner.reader.level ≤ 6 := by
    cases inner.reader <;> simp [Reader.level]
  unfold rank
  rcases within.descends with moved | lower <;> omega

/-- No chain of calls goes on for ever. -/
theorem acc_of_ready {call : Call} (ready : call.Ready) :
    Acc (fun callee call => Calls call callee) call := by
  induction rank : call.rank using Nat.strongRecOn generalizing call with
  | _ bound ih =>
      refine .intro call fun callee calls => ?_
      have within := within_of_calls ready calls
      exact ih callee.rank (rank ▸ within.rank_lt) within.ready rfl

end Call

/-- The skipping of a malformed statement stops on a token where it should, or it moves on. -/
theorem Cursor.skipTo_progress {stop : Token → Bool} (atEnd : stop .eof = true) (start : Cursor) :
    stop start.current = true ∧ start.skipTo stop = start ∨
      start.MovesTo start.advance ∧ start.skipTo stop = start.advance.skipTo stop := by
  rcases start with ⟨_ | ⟨token, tokens⟩, diagnostics⟩
  · exact .inl ⟨atEnd, rfl⟩
  · cases found : stop token with
    | true => exact .inl ⟨found, by simp [skipTo, found]⟩
    | false =>
        refine .inr ⟨⟨.advance _, Nat.lt_succ_self _⟩, ?_⟩
        simp [skipTo, advance, found]

/-- What a program is read as does not depend on the budget, if that suffices. -/
theorem Program.exists_parseStatements_eq (tokens : List Token) :
    ∃ values stop, ∀ budget, parseBudget tokens ≤ budget →
      Program.parseStatements budget ⟨tokens, []⟩ = .parsed values stop := by
  have reads (budget : Nat) (enough : parseBudget tokens ≤ budget) :
      ∃ values stop, Program.parseStatements budget ⟨tokens, []⟩ = .parsed values stop := by
    refine exists_parseStatements budget _ (Nat.le_trans ?_ enough)
    change 8 * tokens.length + 5 ≤ 8 * (tokens.length + 1)
    omega
  rcases reads _ (Nat.le_refl _) with ⟨values, stop, parsed⟩
  refine ⟨values, stop, fun budget enough => ?_⟩
  rcases reads budget enough with ⟨values', stop', parsed'⟩
  have follows := inStep_parseStatements [] budget (parseBudget tokens) ⟨tokens, []⟩ ⟨tokens, []⟩
    ⟨rfl, rfl⟩ trivial
  rw [parsed, parsed'] at follows
  rcases follows with ⟨rfl, abreast, _⟩
  exact abreast.eq ▸ parsed'

/-- Reading ends on all tokens, since a reader that is called again within one of its calls, be it
as the next round of a loop or through other readers, is called farther on. -/
theorem Program.parse_progresses (tokens : List Token) :
    let whole : Call := ⟨.program, ⟨tokens, []⟩⟩
    (∃ values stop, Program.parse tokens = ⟨⟨values⟩, stop.diagnostics⟩ ∧
      ∀ budget, parseBudget tokens ≤ budget →
        Program.parseStatements budget ⟨tokens, []⟩ = .parsed values stop) ∧
    (∀ reader budget, Reader.read (budget + 1) reader = reader.script.read budget) ∧
    Acc (fun callee call => Call.Calls call callee) whole ∧
    (∀ call callee, Relation.ReflTransGen Call.Calls whole call →
      Relation.TransGen Call.Calls call callee → call.reader.level ≤ callee.reader.level →
        call.start.MovesTo callee.start) ∧
    ∀ stop ∈ [Token.endsStatement, Token.endsStatementOfBlock], ∀ start : Cursor,
      stop start.current = true ∧ start.skipTo stop = start ∨
        start.MovesTo start.advance ∧ start.skipTo stop = start.advance.skipTo stop := by
  intro whole
  have ready : whole.Ready := fun steps => nomatch steps
  refine ⟨?_, fun reader budget => reader.read_succ budget, Call.acc_of_ready ready, ?_, ?_⟩
  · rcases exists_parseStatements_eq tokens with ⟨values, stop, parsed⟩
    exact ⟨values, stop, by rw [Program.parse, parsed _ (Nat.le_refl _)], parsed⟩
  · intro call callee reached chain level
    have readyCall : call.Ready := by
      rcases Relation.reflTransGen_iff_eq_or_transGen.mp reached with rfl | within
      · exact ready
      · exact (Call.within_of_chain ready within).ready
    exact (Call.within_of_chain readyCall chain).movesTo level
  · intro stop member start
    refine start.skipTo_progress ?_
    simp only [List.mem_cons, List.not_mem_nil, or_false] at member
    rcases member with rfl | rfl <;> rfl

/-- The operand of the first sign in `--a` is an expression within an expression, and starts on the
second sign. -/
theorem Program.parse_progresses_signs :
    let signs : Cursor := ⟨[.operator .minus, .operator .minus, .ident "a"], []⟩
    Relation.TransGen Call.Calls ⟨.program, signs⟩ ⟨.expr .lowest, signs⟩ ∧
      Relation.TransGen Call.Calls ⟨.expr .lowest, signs⟩ ⟨.expr .unary, signs.advance⟩ ∧
        signs.MovesTo signs.advance := by
  intro signs
  have whole : Call.Calls ⟨.program, signs⟩ ⟨.statement, signs⟩ := ⟨0, .head _⟩
  have statement : Call.Calls ⟨.statement, signs⟩ ⟨.expr .lowest, signs⟩ := ⟨0, .head _⟩
  have expr : Call.Calls ⟨.expr .lowest, signs⟩ ⟨.operand, signs⟩ := ⟨0, .head _⟩
  have operand : Call.Calls ⟨.operand, signs⟩ ⟨.unary .minus, signs⟩ := ⟨0, .head _⟩
  have unary : Call.Calls ⟨.unary .minus, signs⟩ ⟨.expr .unary, signs.advance⟩ := ⟨0, .head _⟩
  have reached := (Relation.TransGen.single whole).tail statement
  have chain := ((Relation.TransGen.single expr).tail operand).tail unary
  refine ⟨reached, chain, ?_⟩
  have progress := (parse_progresses signs.remaining).2.2.2.1
  exact progress _ _ reached.to_reflTransGen chain (Nat.le_refl _)

end Monkey
