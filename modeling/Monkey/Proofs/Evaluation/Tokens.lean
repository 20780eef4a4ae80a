import Monkey.Proofs.Arena.Tokens
import Monkey.Proofs.Evaluation.Comparison

/-!
# Evaluation reads no tokens

To change the tokens of a program and of the closures in an arena and to evaluate comes to the same
as to evaluate and to change the tokens of the value and of the closures in the arena then. So
programs that are the same up to their tokens have the same outcomes, up to the tokens of functions.
-/

namespace Monkey

variable {change : TokenChange}

/-- Whether an evaluation in an arena with other tokens does what another one does in the arena as
it is, up to the tokens of what either of them leaves. -/
def Retokens (change : TokenChange) {Item : Type} (retoken : Item → Item)
    (plain changed : Evaluation Item) : Prop :=
  ∀ arena : Arena, changed (arena.retoken change) =
    ((plain arena).1.map retoken, (plain arena).2.retoken change)

def Arguments.retoken (change : TokenChange) : Arguments → Arguments
  | values arguments => values (arguments.map (Value.retoken change))
  | returned value => returned (value.retoken change)

theorem Result.Related.eq_map {plain changed : Except EvalError Value}
    (related : Result.Related (Value.Related (Value.Retokened change)) plain changed) :
    changed = plain.map (Value.retoken change) := by
  cases related with
  | ok same => exact congrArg Except.ok (Value.eq_retoken_of_related change same)
  | error error => rfl

namespace Retokens

variable {Item Other : Type} {retoken : Item → Item} {retoken' : Other → Other}

theorem pure (item : Item) : Retokens change retoken (Pure.pure item) (Pure.pure (retoken item)) :=
  fun _ => rfl

theorem result {plain changed : Except EvalError Item} (same : changed = plain.map retoken) :
    Retokens change retoken (ExceptT.mk (Pure.pure plain)) (ExceptT.mk (Pure.pure changed)) :=
  fun arena => congrArg (·, arena.retoken change) same

theorem throw (error : EvalError) :
    Retokens change retoken (MonadExcept.throw error) (MonadExcept.throw error) :=
  fun _ => rfl

theorem bind {plain changed : Evaluation Item} {next next' : Item → Evaluation Other}
    (first : Retokens change retoken plain changed)
    (rest : ∀ item, Retokens change retoken' (next item) (next' (retoken item))) :
    Retokens change retoken' (plain >>= next) (changed >>= next') := by
  intro arena
  change ExceptT.bindCont next' (changed (arena.retoken change)).1
    (changed (arena.retoken change)).2 = _
  rw [first arena]
  change _ = (Except.map retoken' (ExceptT.bindCont next (plain arena).1 (plain arena).2).1,
    (ExceptT.bindCont next (plain arena).1 (plain arena).2).2.retoken change)
  cases (plain arena).1 with
  | ok item => exact rest item (plain arena).2
  | error error => rfl

theorem withOperand {plain changed : Evaluation Value} {next next' : Value → Evaluation Value}
    (operand : Retokens change (Value.retoken change) plain changed)
    (rest : ∀ value,
      Retokens change (Value.retoken change) (next value) (next' (value.retoken change))) :
    Retokens change (Value.retoken change) (Evaluation.withOperand plain next)
      (Evaluation.withOperand changed next') := by
  refine bind operand fun value => ?_
  cases value with
  | returned value => exact pure (Value.returned value)
  | _ => exact rest _

theorem identifier (scope : FrameId) (name : String) :
    Retokens change (Value.retoken change) (Evaluation.identifier scope name)
      (Evaluation.identifier scope name) := by
  intro arena
  rw [Evaluation.identifier, Arena.lookup?_retoken, Evaluation.identifier]
  cases arena.lookup? scope name with
  | some value => rfl
  | none => cases Builtin.ofName? name <;> rfl

theorem bindName (scope : FrameId) (name : String) (value : Value) :
    Retokens change (Value.retoken change) (Evaluation.bind scope name value)
      (Evaluation.bind scope name (value.retoken change)) :=
  fun arena => congrArg (Except.ok Value.null, ·)
    (Arena.bind_retoken change scope name value arena)

theorem closeOver (scope : FrameId) (parameters : List Identifier) (body : Block) :
    Retokens change (Value.retoken change) (Evaluation.close scope parameters body)
      (Evaluation.close scope (parameters.map (Identifier.retoken change))
        (body.retoken change)) := by
  intro arena
  rw [Evaluation.close, Arena.close_retoken]
  rfl

end Retokens

/-! ## Operators and built-in functions -/

theorem Closure.toldApart_retokened : ToldApart (Value.Retokened change) := by
  rintro left _ left' _ rfl rfl
  exact Iff.rfl

theorem Operator.applyUnary_retoken (operator : Operator) (operand : Value) :
    operator.applyUnary (operand.retoken change) =
      (operator.applyUnary operand).map (Value.retoken change) :=
  (operator.applyUnary_related (Value.related_retoken change operand)).eq_map

theorem Operator.applyBinary_retoken (operator : Operator) (left right : Value) :
    operator.applyBinary (left.retoken change) (right.retoken change) =
      (operator.applyBinary left right).map (Value.retoken change) :=
  (operator.applyBinary_related Closure.toldApart_retokened (Value.related_retoken change left)
    (Value.related_retoken change right)).eq_map

theorem Builtin.apply_retoken (function : Builtin) (arguments : List Value) :
    function.apply (arguments.map (Value.retoken change)) =
      (function.apply arguments).map (Value.retoken change) := by
  refine (function.apply_related ?_).eq_map
  rw [List.forall₂_map_right_iff]
  exact List.forall₂_same.mpr fun value _ => Value.related_retoken change value

/-! ## Trees -/

/-- Whether applying values does not depend on their tokens. -/
def Application.Retokens (change : TokenChange) (apply : Application) : Prop :=
  ∀ callee arguments, Monkey.Retokens change (Value.retoken change) (apply callee arguments)
    (apply (callee.retoken change) (arguments.map (Value.retoken change)))

mutual

theorem Expr.retokens {apply : Application} (applies : apply.Retokens change) (scope : FrameId)
    (value : Expr) :
    Retokens change (Value.retoken change) (value.evaluate apply scope)
      ((value.retoken change).evaluate apply scope) := by
  cases value with
  | ident identifier => exact .identifier scope identifier.name
  | int token value => exact .pure (Value.int value)
  | bool token value => exact .pure (Value.bool value)
  | string token text => exact .pure (Value.string text)
  | unary token operator operand =>
      refine .withOperand (Expr.retokens applies scope operand) fun operand => ?_
      exact .result (operator.applyUnary_retoken operand)
  | binary token left operator right =>
      refine .withOperand (Expr.retokens applies scope left) fun left => ?_
      refine .withOperand (Expr.retokens applies scope right) fun right => ?_
      exact .result (operator.applyBinary_retoken left right)
  | conditional token condition consequence alternative =>
      refine .withOperand (Expr.retokens applies scope condition) fun condition => ?_
      -- Both sides take the same branch.
      have truth : (condition.retoken change).isTruthy = condition.isTruthy :=
        (Value.related_retoken change condition).isTruthy_eq.symm
      rw [truth]
      split
      · exact Block.retokens applies scope consequence
      · exact retokens_alternative applies scope alternative
  | function token parameters body => exact .closeOver scope parameters body
  | call token callee arguments =>
      refine .withOperand (Expr.retokens applies scope callee) fun callee => ?_
      refine .bind (retokens_arguments applies scope arguments) fun operands => ?_
      cases operands with
      | values values => exact applies callee values
      | returned value => exact .pure (Value.returned value)
termination_by structural value

theorem retokens_alternative {apply : Application} (applies : apply.Retokens change)
    (scope : FrameId) (alternative : Option Block) :
    Retokens change (Value.retoken change) (evaluateAlternative apply scope alternative)
      (evaluateAlternative apply scope (retokenAlternative change alternative)) := by
  cases alternative with
  | none => exact .pure Value.null
  | some block => exact Block.retokens applies scope block
termination_by structural alternative

theorem retokens_arguments {apply : Application} (applies : apply.Retokens change)
    (scope : FrameId) (arguments : List Expr) :
    Retokens change (Arguments.retoken change) (evaluateArguments apply scope arguments)
      (evaluateArguments apply scope (retokenArguments change arguments)) := by
  cases arguments with
  | nil => exact .pure (Arguments.values [])
  | cons argument rest =>
      refine .bind (Expr.retokens applies scope argument) fun value => ?_
      cases value with
      | returned value => exact .pure (Arguments.returned value)
      | _ =>
          refine .bind (retokens_arguments applies scope rest) fun operands => ?_
          cases operands with
          | values values => exact .pure (Arguments.values (_ :: values))
          | returned value => exact .pure (Arguments.returned value)
termination_by structural arguments

theorem Statement.retokens {apply : Application} (applies : apply.Retokens change)
    (scope : FrameId) (statement : Statement) :
    Retokens change (Value.retoken change) (statement.evaluate apply scope)
      ((statement.retoken change).evaluate apply scope) := by
  cases statement with
  | bind token identifier value =>
      exact .withOperand (Expr.retokens applies scope value) (.bindName scope identifier.name)
  | result token value =>
      refine .withOperand (Expr.retokens applies scope value) fun value => ?_
      exact .pure (Value.returned value)
  | expr token value => exact Expr.retokens applies scope value
termination_by structural statement

theorem retokens_statements {apply : Application} (applies : apply.Retokens change)
    (scope : FrameId) (statements : List Statement) (latest : Value) :
    Retokens change (Value.retoken change) (evaluateStatements apply scope latest statements)
      (evaluateStatements apply scope (latest.retoken change)
        (retokenStatements change statements)) := by
  cases statements with
  | nil => exact .pure latest
  | cons statement rest =>
      refine .bind (Statement.retokens applies scope statement) fun value => ?_
      cases value with
      | returned value => exact .pure (Value.returned value)
      | _ => exact retokens_statements applies scope rest _
termination_by structural statements

theorem Block.retokens {apply : Application} (applies : apply.Retokens change)
    (scope : FrameId) (block : Block) :
    Retokens change (Value.retoken change) (block.evaluate apply scope)
      ((block.retoken change).evaluate apply scope) := by
  rcases block with ⟨token, statements⟩
  exact retokens_statements applies scope statements .null
termination_by structural block

end

/-! ## Calls and programs -/

/-- The outcome of a run arrives as before. -/
theorem Value.map_unwrap_retoken (outcome : Except EvalError Value) :
    (outcome.map (Value.retoken change)).map Value.unwrap =
      (outcome.map Value.unwrap).map (Value.retoken change) := by
  cases outcome with
  | ok value => exact congrArg Except.ok (value.unwrap_retoken change)
  | error error => rfl

theorem Closure.enter_retokens {apply : Application} (applies : apply.Retokens change)
    (function : Closure) (arguments : List Value) :
    Retokens change (Value.retoken change) (function.enter .reusing apply arguments)
      ((function.retoken change).enter .reusing apply (arguments.map (Value.retoken change))) := by
  intro arena
  rw [Closure.enter_eq, Closure.enter_eq]
  dsimp only [FramePolicy.reusing, Closure.retoken]
  rw [Arena.enclose_retoken, Arena.bindAll_retoken, Block.retokens applies _ function.body _,
    Value.map_unwrap_retoken, Arena.drop_retoken]

/-- A value is applied as its kind says, where the number of calls left matters to closures
alone. -/
theorem Value.apply_retokens_of_closures (remaining : Nat)
    (closures : ∀ (function : Closure) (arguments : List Value),
      arguments.length = function.parameters.length →
      (arguments.map (Value.retoken change)).length = (function.retoken change).parameters.length →
        Retokens change (Value.retoken change)
          (Value.apply .reusing remaining (.closure function) arguments)
          (Value.apply .reusing remaining (.closure (function.retoken change))
            (arguments.map (Value.retoken change)))) :
    Application.Retokens change (Value.apply .reusing remaining) := by
  intro callee arguments
  cases callee with
  | closure function =>
      have given : (arguments.map (retoken change)).length = arguments.length := List.length_map _
      have wanted : (function.retoken change).parameters.length = function.parameters.length :=
        List.length_map _
      by_cases arity : arguments.length = function.parameters.length
      · exact closures function arguments arity (given.trans (arity.trans wanted.symm))
      · have arity' : (arguments.map (retoken change)).length ≠
            (function.retoken change).parameters.length := by rwa [given, wanted]
        rw [retoken, apply_of_length_ne arity, apply_of_length_ne arity', given, wanted]
        exact .throw _
  | builtin function =>
      simp only [retoken, apply]
      exact .result (function.apply_retoken arguments)
  | returned value =>
      have types := (related_retoken change value).typeName_eq
      simp only [retoken, apply, typeName, types]
      exact .throw _
  | _ =>
      simp only [retoken, apply]
      exact .throw _

/-- However many calls may still be nested, applying a value does not depend on its tokens. -/
theorem Value.apply_retokens (remaining : Nat) :
    Application.Retokens change (Value.apply .reusing remaining) := by
  induction remaining with
  | zero =>
      refine apply_retokens_of_closures 0 fun function arguments arity arity' => ?_
      rw [apply_zero arity, apply_zero arity']
      exact .throw _
  | succ remaining ih =>
      refine apply_retokens_of_closures (remaining + 1) fun function arguments arity arity' => ?_
      rw [apply_succ arity, apply_succ arity']
      exact function.enter_retokens ih arguments

/-- To change the tokens of a program and of the closures in an arena and to evaluate comes to the
same as to evaluate and to change the tokens then. -/
theorem Program.evaluate_retoken (change : TokenChange) (program : Program) (scope : FrameId)
    (arena : Arena) :
    (program.retoken change).evaluate scope (arena.retoken change) =
      ((program.evaluate scope arena).1.map (Value.retoken change),
        (program.evaluate scope arena).2.retoken change) := by
  have ended : evaluateStatements (Value.apply .reusing callDepthLimit) scope .null
      (retokenStatements change program.statements) (arena.retoken change) = _ :=
    retokens_statements (Value.apply_retokens callDepthLimit) scope program.statements .null arena
  have values (outcome : Except EvalError Value) :
      outcomeValues (outcome.map (Value.retoken change)) =
        (outcomeValues outcome).map (Value.retoken change) := by
    cases outcome <;> rfl
  rw [evaluate_eq, evaluate_eq]
  dsimp only [retoken]
  -- The roots of the collection are values of the run, which have the same homes.
  rw [ended, Value.map_unwrap_retoken, values, Arena.collect_retoken]

/-! ## Outcomes up to tokens -/

/-- What two evaluations come to is the same up to a change of tokens: the same error or values
that are the same up to the change, and arenas with the same frames in use, where the same names
are bound to values that are the same up to the change. -/
structure SameOutcome (change : TokenChange) (left right : Except EvalError Value × Arena) :
    Prop where
  result : Result.Related (Value.SameUpTo change) left.1 right.1
  names : ∀ id, left.2.names id = right.2.names id
  allocated : ∀ id, (left.2.frame? id).isSome = (right.2.frame? id).isSome
  live : left.2.live = right.2.live
  bound : ∀ id name,
    Option.Rel (Value.SameUpTo change) (left.2.lookup? id name) (right.2.lookup? id name)
  arenas : left.2.retoken change = right.2.retoken change

theorem Result.Related.of_map_retoken_eq {left right : Except EvalError Value}
    (same : left.map (Value.retoken change) = right.map (Value.retoken change)) :
    Result.Related (Value.SameUpTo change) left right := by
  cases left with
  | ok value =>
      cases right with
      | ok other => exact .ok (.of_retoken_eq change (Except.ok.inj same))
      | error error => cases same
  | error error =>
      cases right with
      | ok other => cases same
      | error other => cases same; exact .error error

theorem Value.SameUpTo.rel_of_map_retoken_eq {left right : Option Value}
    (same : left.map (Value.retoken change) = right.map (Value.retoken change)) :
    Option.Rel (Value.SameUpTo change) left right := by
  cases left with
  | some value =>
      cases right with
      | some other => exact .some (.of_retoken_eq change (Option.some.inj same))
      | none => cases same
  | none =>
      cases right with
      | some other => cases same
      | none => exact .none

/-- Outcomes that a change of tokens makes the same are the same up to the change. -/
theorem SameOutcome.of_retoken_eq {left right : Except EvalError Value × Arena}
    (results : left.1.map (Value.retoken change) = right.1.map (Value.retoken change))
    (arenas : left.2.retoken change = right.2.retoken change) :
    SameOutcome change left right where
  result := .of_map_retoken_eq results
  names id := by rw [← Arena.names_retoken change, arenas, Arena.names_retoken]
  allocated id := by
    have frames := congrArg (fun arena => (arena.frame? id).isSome) arenas
    simpa using frames
  live := by rw [← Arena.live_retoken change, arenas, Arena.live_retoken]
  bound id name := by
    refine Value.SameUpTo.rel_of_map_retoken_eq ?_
    rw [← Arena.lookup?_retoken, arenas, Arena.lookup?_retoken]
  arenas := arenas

theorem SameOutcome.inspect_eq {left right : Except EvalError Value × Arena}
    (same : SameOutcome .ignoring left right) :
    left.1.map Value.inspect = right.1.map Value.inspect := by
  rcases left with ⟨outcome, A⟩
  rcases right with ⟨outcome', B⟩
  cases same.result with
  | ok shown => exact congrArg Except.ok shown.inspect_eq
  | error error => rfl

theorem SameOutcome.inspect_bound_eq {left right : Except EvalError Value × Arena}
    (same : SameOutcome .ignoring left right) (id : FrameId) (name : String) :
    (left.2.lookup? id name).map Value.inspect = (right.2.lookup? id name).map Value.inspect := by
  have bound := same.bound id name
  revert bound
  generalize left.2.lookup? id name = value
  generalize right.2.lookup? id name = value'
  intro bound
  cases bound with
  | some shown => exact congrArg some shown.inspect_eq
  | none => rfl

/-- Programs that are the same up to a change of tokens, in arenas that are, have outcomes that
are. -/
theorem Program.sameOutcome {program other : Program}
    (same : program.retoken change = other.retoken change) (scope : FrameId) {A B : Arena}
    (alike : A.retoken change = B.retoken change) :
    SameOutcome change (program.evaluate scope A) (other.evaluate scope B) := by
  have outcomes : ((program.evaluate scope A).1.map (Value.retoken change),
        (program.evaluate scope A).2.retoken change) =
      ((other.evaluate scope B).1.map (Value.retoken change),
        (other.evaluate scope B).2.retoken change) := by
    rw [← evaluate_retoken, ← evaluate_retoken, same, alike]
  exact .of_retoken_eq (congrArg Prod.fst outcomes) (congrArg Prod.snd outcomes)

/-- Evaluation reads no tokens. Programs that are the same once all tokens are erased come to the
same error or to values of one kind, type and truth, equal unless they are functions and else the
same once all tokens are erased, and they leave the same frames with the same names. Equality of
trees is an equivalence that ignores the tokens of expression statements and nothing else, and
equal programs print the same text and come to values that are shown by the same text. -/
theorem Program.evaluate_up_to_tokens :
    (∀ program other : Program, program.retoken .erasing = other.retoken .erasing →
      ∀ (scope : FrameId) (A B : Arena), A.retoken .erasing = B.retoken .erasing →
        SameOutcome .erasing (program.evaluate scope A) (other.evaluate scope B)) ∧
    Equivalence (fun left right : Program => (left == right) = true) ∧
    Equivalence (fun left right : Block => (left == right) = true) ∧
    Equivalence (fun left right : Statement => (left == right) = true) ∧
    Equivalence (fun left right : Expr => (left == right) = true) ∧
    (∀ program other : Program,
      (program == other) = true ↔ program.retoken .ignoring = other.retoken .ignoring) ∧
    ∀ program other : Program, (program == other) = true →
      program.print = other.print ∧
      ∀ (scope : FrameId) (A B : Arena), A.retoken .ignoring = B.retoken .ignoring →
        let left := program.evaluate scope A
        let right := other.evaluate scope B
        SameOutcome .ignoring left right ∧
          left.1.map Value.inspect = right.1.map Value.inspect ∧
          ∀ id name, (left.2.lookup? id name).map Value.inspect =
            (right.2.lookup? id name).map Value.inspect := by
  refine ⟨fun program other same scope A B alike => sameOutcome same scope alike,
    equivalence_of_normal beq_iff, equivalence_of_normal Block.beq_iff,
    equivalence_of_normal Statement.beq_iff, equivalence_of_normal Expr.beq_iff,
    fun program other => beq_iff, fun program other same => ⟨print_eq_of_beq same, ?_⟩⟩
  intro scope A B alike left right
  have outcome : SameOutcome .ignoring left right := sameOutcome (beq_iff.mp same) scope alike
  exact ⟨outcome, outcome.inspect_eq, outcome.inspect_bound_eq⟩

/-- A function that is bound and then named, with its tokens, with parentheses around its value and
its name, and with tokens of another program. -/
theorem Program.evaluate_up_to_tokens_function :
    let tree (word digits opening last : Token) : Program :=
      let body : Block := ⟨.punctuation .openBrace, [.expr opening (.int digits 1)]⟩
      ⟨[.bind word ⟨.ident "one", "one"⟩ (.function (.keyword .fnWord) [] body),
        .expr last (.ident ⟨.ident "one", "one"⟩)]⟩
    let program := tree (.keyword .letWord) (.int "1") (.int "1") (.ident "one")
    let grouped := tree (.keyword .letWord) (.int "1") (.punctuation .openParen)
      (.punctuation .openParen)
    let misread := tree .eof (.int "7") .eof (.string "one")
    let scope : FrameId := ⟨0⟩
    let arena := (Arena.start 0).2
    program.retoken .erasing = misread.retoken .erasing ∧
      SameOutcome .erasing (program.evaluate scope arena) (misread.evaluate scope arena) ∧
      (program == grouped) = true ∧ program.print = grouped.print ∧
      SameOutcome .ignoring (program.evaluate scope arena) (grouped.evaluate scope arena) ∧
      (program.evaluate scope arena).1.map Value.inspect = .ok "fn() \x7b 1 \x7d" ∧
      (grouped.evaluate scope arena).1.map Value.inspect = .ok "fn() \x7b 1 \x7d" ∧
      (misread.evaluate scope arena).1.map Value.inspect = .ok "fn() \x7b 7 \x7d" := by
  intro tree program grouped misread scope arena
  have erased : program.retoken .erasing = misread.retoken .erasing := rfl
  have equal : (program == grouped) = true := beq_iff.mpr rfl
  rcases evaluate_up_to_tokens with ⟨alike, -, -, -, -, -, shown⟩
  rcases shown program grouped equal with ⟨printed, outcomes⟩
  rcases outcomes scope arena arena rfl with ⟨same, inspected, -⟩
  have text : (program.evaluate scope arena).1.map Value.inspect = .ok "fn() \x7b 1 \x7d" := rfl
  exact ⟨erased, alike program misread erased scope arena arena rfl, equal, printed, same, text,
    inspected.symm.trans text, rfl⟩

end Monkey
