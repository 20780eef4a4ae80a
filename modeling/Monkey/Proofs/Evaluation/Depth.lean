import Monkey.Proofs.Evaluation.Machine

/-!
# The cap on nested calls

How many calls may still be nested is asked for in one place, where a call is about to be opened,
and an answer that is not `stackOverflow` is not kept. So an evaluation with more calls left comes
to the same outcome and the same arena, unless the one with fewer calls runs out of them. `Covers`
says this of computations, and is proved of evaluation by induction on the tree and on the number of
calls that are left.

The machine counts the calls that are open. It is back at the depth that it started from whatever
comes of an evaluation, an overflow among them.
-/

namespace Monkey

/-- Whether a computation comes to what another one comes to wherever that one does not run out of
calls. -/
def Evaluation.Covers {Result : Type} (more fewer : Evaluation Result) : Prop :=
  ∀ arena, (fewer arena).1 ≠ .error .stackOverflow → more arena = fewer arena

namespace Evaluation.Covers

variable {Result Next : Type} {more fewer : Evaluation Result}

theorem refl (computation : Evaluation Result) : computation.Covers computation :=
  fun _ _ => rfl

theorem overflow : more.Covers (throw .stackOverflow) :=
  fun _ enough => absurd rfl enough

theorem bind {next next' : Result → Evaluation Next} (covers : more.Covers fewer)
    (rest : ∀ value, (next value).Covers (next' value)) :
    Covers (more >>= next) (fewer >>= next') := by
  intro arena enough
  change ExceptT.bindCont next (more arena).1 (more arena).2 =
    ExceptT.bindCont next' (fewer arena).1 (fewer arena).2
  change (ExceptT.bindCont next' (fewer arena).1 (fewer arena).2).1 ≠ _ at enough
  -- An overflow of the first computation would be one of the whole.
  have first : (fewer arena).1 ≠ .error .stackOverflow := by
    intro full
    rw [full] at enough
    exact enough rfl
  rw [covers arena first]
  cases outcome : (fewer arena).1 with
  | error error => rfl
  | ok value =>
      rw [outcome] at enough
      exact rest value _ enough

theorem withOperand {more fewer : Evaluation Value} {next next' : Value → Evaluation Value}
    (covers : more.Covers fewer) (rest : ∀ value, (next value).Covers (next' value)) :
    Covers (withOperand more next) (withOperand fewer next') := by
  refine covers.bind fun value => ?_
  cases value with
  | returned value => exact .refl _
  | _ => exact rest _

end Evaluation.Covers

/-- Whether applying a value comes to what another application of it comes to, unless that one runs
out of calls. -/
def Application.Covers (more fewer : Application) : Prop :=
  ∀ callee arguments, (more callee arguments).Covers (fewer callee arguments)

namespace Application.Covers

variable {more fewer : Application} {scope : FrameId}

mutual

theorem expr (covers : more.Covers fewer) (value : Expr) :
    (value.evaluate more scope).Covers (value.evaluate fewer scope) := by
  cases value with
  | unary _ operator operand =>
      rw [Expr.evaluate, Expr.evaluate]
      exact .withOperand (covers.expr operand) fun _ => .refl _
  | binary _ left operator right =>
      rw [Expr.evaluate, Expr.evaluate]
      exact .withOperand (covers.expr left) fun _ =>
        .withOperand (covers.expr right) fun _ => .refl _
  | conditional _ condition consequence alternative =>
      rw [Expr.evaluate, Expr.evaluate]
      refine .withOperand (covers.expr condition) fun value => ?_
      split
      · exact covers.block consequence
      · exact covers.alternative alternative
  | call _ callee arguments =>
      rw [Expr.evaluate, Expr.evaluate]
      refine .withOperand (covers.expr callee) fun function =>
        .bind (covers.arguments arguments) fun found => ?_
      cases found with
      | values values => exact covers function values
      | returned value => exact .refl _
  | _ => exact .refl _

theorem alternative (covers : more.Covers fewer) (alternative : Option Block) :
    (evaluateAlternative more scope alternative).Covers
      (evaluateAlternative fewer scope alternative) := by
  cases alternative with
  | none => exact .refl _
  | some block => exact covers.block block

theorem arguments (covers : more.Covers fewer) (arguments : List Expr) :
    (evaluateArguments more scope arguments).Covers
      (evaluateArguments fewer scope arguments) := by
  cases arguments with
  | nil => exact .refl _
  | cons argument rest =>
      rw [evaluateArguments, evaluateArguments]
      refine .bind (covers.expr argument) fun value => ?_
      cases value with
      | returned value => exact .refl _
      | _ => exact .bind (covers.arguments rest) fun _ => .refl _

theorem statement (covers : more.Covers fewer) (statement : Statement) :
    (statement.evaluate more scope).Covers (statement.evaluate fewer scope) := by
  cases statement with
  | bind _ identifier value =>
      rw [Statement.evaluate, Statement.evaluate]
      exact .withOperand (covers.expr value) fun _ => .refl _
  | result _ value =>
      rw [Statement.evaluate, Statement.evaluate]
      exact .withOperand (covers.expr value) fun _ => .refl _
  | expr _ value => exact covers.expr value

theorem statements (covers : more.Covers fewer) (latest : Value)
    (statements : List Statement) :
    (evaluateStatements more scope latest statements).Covers
      (evaluateStatements fewer scope latest statements) := by
  cases statements with
  | nil => exact .refl _
  | cons statement rest =>
      rw [evaluateStatements, evaluateStatements]
      refine .bind (covers.statement statement) fun value => ?_
      cases value with
      | returned value => exact .refl _
      | _ => exact covers.statements _ rest

theorem block (covers : more.Covers fewer) (block : Block) :
    (block.evaluate more scope).Covers (block.evaluate fewer scope) := by
  cases block with
  | mk _ statements => exact covers.statements .null statements

end

end Application.Covers

/-- A call overflows if its body does, and otherwise comes to what the body comes to. -/
theorem Closure.enter_covers {policy : FramePolicy} {apply apply' : Application}
    (covers : apply.Covers apply') (function : Closure) (arguments : List Value) :
    (function.enter policy apply arguments).Covers
      (function.enter policy apply' arguments) := by
  intro arena enough
  rw [Closure.enter_eq] at enough ⊢
  rw [Closure.enter_eq]
  dsimp only at enough ⊢
  rw [covers.block function.body _ fun full => enough (by rw [full]; rfl)]

theorem Value.apply_covers (policy : FramePolicy) {fewer more : Nat} (le : fewer ≤ more) :
    Application.Covers (Value.apply policy more) (Value.apply policy fewer) := by
  induction fewer generalizing more with
  | zero =>
      intro callee arguments
      cases callee with
      | closure function =>
          by_cases arity : arguments.length = function.parameters.length
          · rw [apply_zero arity]
            exact .overflow
          · rw [apply_of_length_ne arity, apply_of_length_ne arity]
            exact .refl _
      | _ => cases more <;> exact .refl _
  | succ fewer ih =>
      rcases Nat.exists_eq_add_of_le' le with ⟨extra, rfl⟩
      have le : fewer ≤ extra + fewer := Nat.le_add_left fewer extra
      intro callee arguments
      cases callee with
      | closure function =>
          by_cases arity : arguments.length = function.parameters.length
          · rw [apply_succ arity, ← Nat.add_assoc, apply_succ arity]
            exact function.enter_covers (ih le) arguments
          · rw [apply_of_length_ne arity, apply_of_length_ne arity]
            exact .refl _
      | _ => exact .refl _

/-- How values are applied where a number of calls are open. -/
def Value.applyAt (depth : Nat) : Application :=
  Value.apply .reusing (callDepthLimit - depth)

namespace Configuration

/-- Whether the machine computes at a depth of calls what evaluation does there, and is back at that
depth then, with the same things waiting. -/
def ComesBackAt (depth : Nat) (scope : FrameId) (arena : Arena) (control : Control)
    (computation : Application → Evaluation Value) : Prop :=
  ∀ stack, Runs ⟨control, scope, stack, depth, arena⟩
    ⟨.done (computation (Value.applyAt depth) arena).1, scope, stack, depth,
      (computation (Value.applyAt depth) arena).2⟩

/-- Whether an outcome at one depth of calls that is not an overflow is the outcome at another one,
with the same arena. -/
def Lifts (depth depth' : Nat) (arena : Arena) (computation : Application → Evaluation Value) :
    Prop :=
  (computation (Value.applyAt depth) arena).1 ≠ .error .stackOverflow →
    computation (Value.applyAt depth') arena = computation (Value.applyAt depth) arena

end Configuration

open Configuration

/-- An expression or a block that does not run out of calls at some depth comes to the same outcome
and the same arena at every smaller one. At any depth the machine is back at that depth
afterwards. -/
theorem evaluate_lifts {depth depth' : Nat} (le : depth' ≤ depth) (scope : FrameId)
    (arena : Arena) :
    (∀ value : Expr,
      (∀ depth, ComesBackAt depth scope arena (.expr value) (value.evaluate · scope)) ∧
        Lifts depth depth' arena (value.evaluate · scope)) ∧
    ∀ block : Block,
      (∀ depth, ComesBackAt depth scope arena block.control (block.evaluate · scope)) ∧
        Lifts depth depth' arena (block.evaluate · scope) := by
  have covers : Application.Covers (Value.applyAt depth') (Value.applyAt depth) :=
    Value.apply_covers .reusing (Nat.sub_le_sub_left le callDepthLimit)
  refine ⟨fun value => ⟨fun depth stack => ?_, ?_⟩, fun block => ⟨fun depth stack => ?_, ?_⟩⟩
  · exact computes_expr (applies_apply rfl) value stack arena
  · exact covers.expr value arena
  · exact computes_block (applies_apply rfl) block stack arena
  · exact covers.block block arena

/-- A call within a call, where two more calls may be opened: it comes to the same where none is
open yet, and it would overflow where only one more may be opened. -/
theorem evaluate_lifts_nested :
    let parameter : Identifier := .ofToken (.ident "x")
    let function (body : Expr) : Expr :=
      .function (.keyword .fnWord) [parameter] ⟨.punctuation .openBrace, [.expr .eof body]⟩
    let call (callee argument : Expr) : Expr := .call (.punctuation .openParen) callee [argument]
    let value : Expr := call
      (function (call (function (.unary (.operator .minus) .minus (.ident parameter)))
        (.ident parameter))) (.int (.int "5") 5)
    let opened := Arena.start 0
    let outcome (depth : Nat) := value.evaluate (Value.applyAt depth) opened.1 opened.2
    0 ≤ 2046 ∧ (outcome 2046).1.map Value.inspect = .ok "-5" ∧ (outcome 2046).2.live = 2 ∧
      (outcome 2047).1.map Value.inspect = .error .stackOverflow ∧ outcome 0 = outcome 2046 := by
  intro parameter function call value opened outcome
  have deep : (outcome 2046).1.map Value.inspect = .ok "-5" := by decide +kernel
  have le : 0 ≤ 2046 := by decide
  refine ⟨le, deep, by decide +kernel, by decide +kernel, ?_⟩
  refine ((evaluate_lifts le opened.1 opened.2).1 value).2 fun full => ?_
  rw [show (outcome 2046).1 = .error .stackOverflow from full] at deep
  cases deep

end Monkey
