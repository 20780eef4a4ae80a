import Mathlib.Logic.Relation
import Monkey.Proofs.Evaluation.Comparison

/-!
# Evaluation in single steps

A machine that evaluates one step at a time, so that every moment of an evaluation can be seen: what
comes next, the frame it happens in, what waits for its outcome, how many calls have not returned,
and the arena. A call counts up, and its return counts down, whatever came of it.

From every moment the machine comes to what evaluation comes to, with the same arena, and it is then
back in the same frame, with the same things waiting and the same number of calls. What holds of
every configuration on the way holds at every moment of an evaluation.
-/

namespace Monkey

/-- What waits for the value of an operand, a condition, a callee, an argument, or a statement that
others follow. -/
inductive Part where
  | unary (operator : Operator)
  | left (operator : Operator) (right : Expr)
  | right (left : Value) (operator : Operator)
  | condition (consequence : Block) (alternative : Option Block)
  | callee (arguments : List Expr)
  | argument (callee : Value) (before : List Value) (rest : List Expr)
  | bound (name : String)
  | result
  | statement (rest : List Statement)

/-- What waits for an outcome; a call waits for that of its body, and goes back to the frame of its
caller then. -/
inductive Pending where
  | part (part : Part)
  | call (caller : FrameId)

/-- What a machine does next. -/
inductive Control where
  | expr (value : Expr)
  | operand (value : Expr) (part : Part)
  | statements (latest : Value) (statements : List Statement)
  | arguments (callee : Value) (before : List Value) (rest : List Expr)
  | unary (operator : Operator) (operand : Value)
  | binary (left : Value) (operator : Operator) (right : Value)
  | choose (condition : Value) (consequence : Block) (alternative : Option Block)
  | apply (callee : Value) (arguments : List Value)
  | enter (parameters : List Identifier) (arguments : List Value) (body : Block)
  | bind (name : String) (value : Value)
  | done (outcome : Except EvalError Value)

/-- A moment of an evaluation. -/
structure Configuration where
  control : Control
  scope : FrameId
  stack : List Pending
  depth : Nat
  arena : Arena

/-- What comes after the value of a part. -/
def Part.next : Part → Value → Control
  | unary operator, value => .unary operator value
  | left operator second, value => .operand second (.right value operator)
  | right first operator, value => .binary first operator value
  | condition consequence alternative, value => .choose value consequence alternative
  | callee arguments, value => .arguments value [] arguments
  | argument function before rest, value => .arguments function (before ++ [value]) rest
  | bound name, value => .bind name value
  | result, value => .done (.ok (.returned value))
  | statement rest, value => .statements value rest

/-- The values that wait in a part until its own value comes. -/
def Part.kept : Part → List Value
  | .right first _ => [first]
  | .argument function before _ => function :: before
  | _ => []

def Pending.kept : Pending → List Value
  | .part waiting => waiting.kept
  | .call _ => []

/-- The values that are inspected, passed, bound or kept next: operands of operators, conditions,
callees and arguments among them. -/
def Control.used : Control → List Value
  | .expr _ => []
  | .operand _ part => part.kept
  | .statements latest _ => [latest]
  | .arguments callee before _ => callee :: before
  | .unary _ argument => [argument]
  | .binary left _ right => [left, right]
  | .choose condition _ _ => [condition]
  | .apply callee values => callee :: values
  | .enter _ values _ => values
  | .bind _ value => [value]
  | .done _ => []

/-- Whether a control binds a name, be it that of a parameter. -/
def Control.isBinding : Control → Bool
  | .enter _ _ _ => true
  | .bind _ _ => true
  | _ => false

def Statement.control : Statement → Control
  | bind _ identifier value => .operand value (.bound identifier.name)
  | result _ value => .operand value .result
  | expr _ value => .expr value

def Block.control (block : Block) : Control :=
  .statements .null block.statements

/-- The alternative of a conditional; null if there is none. -/
def Control.ofAlternative : Option Block → Control
  | none => .done (.ok .null)
  | some block => block.control

theorem Evaluation.identifier_arena (scope : FrameId) (name : String) (arena : Arena) :
    (Evaluation.identifier scope name arena).2 = arena := by
  unfold Evaluation.identifier
  split
  · rfl
  · split <;> rfl

namespace Configuration

/-- Goes on with something else in the same arena. -/
def goOn (configuration : Configuration) (control : Control) : Configuration :=
  { configuration with control := control }

/-- Does what evaluation does at once. -/
def perform (configuration : Configuration) (action : Evaluation Value) : Configuration :=
  { configuration with
    control := .done (action configuration.arena).1
    arena := (action configuration.arena).2 }

def await (configuration : Configuration) (part : Part) (control : Control) : Configuration :=
  { configuration with control := control, stack := .part part :: configuration.stack }

def stepExpr (configuration : Configuration) : Expr → Configuration
  | .ident name => configuration.perform (Evaluation.identifier configuration.scope name.name)
  | .int _ value => configuration.goOn (.done (.ok (.int value)))
  | .bool _ value => configuration.goOn (.done (.ok (.bool value)))
  | .string _ text => configuration.goOn (.done (.ok (.string text)))
  | .unary _ operator operand => configuration.goOn (.operand operand (.unary operator))
  | .binary _ left operator right => configuration.goOn (.operand left (.left operator right))
  | .conditional _ condition consequence alternative =>
      configuration.goOn (.operand condition (.condition consequence alternative))
  | .function _ parameters body =>
      configuration.perform (Evaluation.close configuration.scope parameters body)
  | .call _ callee arguments => configuration.goOn (.operand callee (.callee arguments))

/-- Opens a call: a new frame within the closure's home becomes the scope. -/
def call (configuration : Configuration) (function : Closure) (arguments : List Value) :
    Configuration where
  control := .enter function.parameters arguments function.body
  scope := (configuration.arena.enclose function.home).1
  stack := .call configuration.scope :: configuration.stack
  depth := configuration.depth + 1
  arena := (configuration.arena.enclose function.home).2

def stepApply (configuration : Configuration) : Value → List Value → Configuration
  | .closure function, arguments =>
      if arguments.length = function.parameters.length then
        if callDepthLimit ≤ configuration.depth then
          configuration.goOn (.done (.error .stackOverflow))
        else
          configuration.call function arguments
      else
        configuration.goOn
          (.done (.error (.wrongArity arguments.length function.parameters.length)))
  | .builtin function, arguments => configuration.goOn (.done (function.apply arguments))
  | callee, _ => configuration.goOn (.done (.error (.notAFunction callee.typeName)))

/-- Binds one parameter, or starts with the body when none is left. -/
def stepEnter (configuration : Configuration) (body : Block) :
    List Identifier → List Value → Configuration
  | parameter :: parameters, argument :: arguments =>
      { configuration with
        control := .enter parameters arguments body
        arena := configuration.arena.bind configuration.scope parameter.name argument }
  | _, _ => configuration.goOn body.control

/-- Hands an outcome to what waits for it. An error and a pending result pass by the parts; a call
takes the wrapping off a pending result, gives up the handle on its frame and counts down. -/
def resume (configuration : Configuration) (outcome : Except EvalError Value) :
    Pending → Configuration
  | .part part =>
      match outcome with
      | .ok (.returned value) => configuration.goOn (.done (.ok (.returned value)))
      | .ok value => configuration.goOn (part.next value)
      | .error error => configuration.goOn (.done (.error error))
  | .call caller =>
      { configuration with
        control := .done (outcome.map Value.unwrap)
        scope := caller
        depth := configuration.depth - 1
        arena := configuration.arena.drop configuration.scope }

/-- The next moment, unless the machine has an outcome that nothing waits for. -/
def step (configuration : Configuration) : Option Configuration :=
  match configuration.control with
  | .expr value => some (configuration.stepExpr value)
  | .operand value part => some (configuration.await part (.expr value))
  | .statements latest [] => some (configuration.goOn (.done (.ok latest)))
  | .statements _ (statement :: rest) =>
      some (configuration.await (.statement rest) statement.control)
  | .arguments callee before [] => some (configuration.goOn (.apply callee before))
  | .arguments callee before (argument :: rest) =>
      some (configuration.goOn (.operand argument (.argument callee before rest)))
  | .unary operator operand =>
      some (configuration.goOn (.done (operator.applyUnary operand)))
  | .binary left operator right =>
      some (configuration.goOn (.done (operator.applyBinary left right)))
  | .choose condition consequence alternative =>
      some (configuration.goOn
        (if condition.isTruthy then consequence.control else .ofAlternative alternative))
  | .apply callee arguments => some (configuration.stepApply callee arguments)
  | .enter parameters arguments body => some (configuration.stepEnter body parameters arguments)
  | .bind name value =>
      some (configuration.perform (Evaluation.bind configuration.scope name value))
  | .done outcome =>
      match configuration.stack with
      | [] => none
      | pending :: stack => some ({ configuration with stack := stack }.resume outcome pending)

/-- Whether a machine comes from one configuration to another one. -/
abbrev Runs : Configuration → Configuration → Prop :=
  Relation.ReflTransGen fun configuration next => configuration.step = some next

/-- The callers of the calls that have not returned, the innermost first. -/
def callers (configuration : Configuration) : List FrameId :=
  configuration.stack.filterMap fun
    | .part _ => none
    | .call caller => some caller

/-- Whether a configuration is within the same calls as another one. -/
structure SameCalls (configuration later : Configuration) : Prop where
  scope_eq : later.scope = configuration.scope
  callers_eq : later.callers = configuration.callers
  depth_eq : later.depth = configuration.depth

/-- What a step does to frames and calls. -/
inductive Moves (configuration later : Configuration) : Prop where
  | stays (same : configuration.SameCalls later) (arena_eq : later.arena = configuration.arena)
  | closes (same : configuration.SameCalls later) (parameters : List Identifier) (body : Block)
      (arena_eq : later.arena =
        (configuration.arena.close configuration.scope parameters body).2)
  | binds (same : configuration.SameCalls later) (name : String) {value : Value}
      (used : value ∈ configuration.control.used)
      (arena_eq : later.arena = configuration.arena.bind configuration.scope name value)
      (binding : configuration.control.isBinding = true)
  | calls (function : Closure) (used : .closure function ∈ configuration.control.used)
      (room : configuration.depth < callDepthLimit)
      (scope_eq : later.scope = (configuration.arena.enclose function.home).1)
      (callers_eq : later.callers = configuration.scope :: configuration.callers)
      (depth_eq : later.depth = configuration.depth + 1)
      (arena_eq : later.arena = (configuration.arena.enclose function.home).2)
  | returns (callers_eq : configuration.callers = later.scope :: later.callers)
      (depth_eq : later.depth = configuration.depth - 1)
      (arena_eq : later.arena = configuration.arena.drop configuration.scope)

section Moves

variable (configuration : Configuration)

theorem moves_goOn (control : Control) : configuration.Moves (configuration.goOn control) :=
  .stays ⟨rfl, rfl, rfl⟩ rfl

theorem moves_await (part : Part) (control : Control) :
    configuration.Moves (configuration.await part control) :=
  .stays ⟨rfl, rfl, rfl⟩ rfl

theorem moves_stepExpr (value : Expr) : configuration.Moves (configuration.stepExpr value) := by
  cases value with
  | ident name =>
      exact .stays ⟨rfl, rfl, rfl⟩ (Evaluation.identifier_arena configuration.scope name.name _)
  | function _ parameters body => exact .closes ⟨rfl, rfl, rfl⟩ parameters body rfl
  | _ => exact configuration.moves_goOn _

end Moves

/-- Every step keeps within its calls, where it may make a closure or bind a name in the frame of
the innermost one, or else opens a call or returns from one. -/
theorem moves_of_step {configuration later : Configuration}
    (stepped : configuration.step = some later) : configuration.Moves later := by
  rcases configuration with ⟨control, scope, stack, depth, arena⟩
  cases control with
  | expr value =>
      cases stepped
      exact moves_stepExpr _ value
  | statements latest statements =>
      cases statements <;> cases stepped
      · exact moves_goOn _ _
      · exact moves_await _ _ _
  | arguments callee before rest =>
      cases rest <;> cases stepped <;> exact moves_goOn _ _
  | apply callee arguments =>
      cases stepped
      cases callee with
      | closure function =>
          simp only [stepApply]
          split
          · split
            · exact moves_goOn _ _
            · next room =>
                exact .calls function List.mem_cons_self (Nat.not_le.mp room) rfl rfl rfl rfl
          · exact moves_goOn _ _
      | _ => exact moves_goOn _ _
  | enter parameters arguments body =>
      cases stepped
      cases parameters with
      | nil => exact moves_goOn _ _
      | cons parameter parameters =>
          cases arguments with
          | nil => exact moves_goOn _ _
          | cons argument arguments =>
              exact .binds ⟨rfl, rfl, rfl⟩ parameter.name List.mem_cons_self rfl rfl
  | bind name value =>
      cases stepped
      exact .binds ⟨rfl, rfl, rfl⟩ name List.mem_cons_self rfl rfl
  | done outcome =>
      cases stack with
      | nil => cases stepped
      | cons pending stack =>
          cases stepped
          cases pending with
          | part part =>
              cases outcome with
              | error error => exact .stays ⟨rfl, rfl, rfl⟩ rfl
              | ok value => cases value <;> exact .stays ⟨rfl, rfl, rfl⟩ rfl
          | call caller => exact .returns rfl rfl rfl
  | operand value part =>
      cases stepped
      exact moves_await _ _ _
  | _ =>
      cases stepped
      exact moves_goOn _ _

/-- Whether the machine, from a control in a scope and at a depth of calls, comes to what a
computation comes to, and is back in that scope and at that depth then with the same things
waiting. -/
def Computes (scope : FrameId) (depth : Nat) (control : Control)
    (computation : Evaluation Value) : Prop :=
  ∀ stack arena, Runs ⟨control, scope, stack, depth, arena⟩
    ⟨.done (computation arena).1, scope, stack, depth, (computation arena).2⟩

namespace Computes

variable {scope : FrameId} {depth : Nat} {control : Control} {computation : Evaluation Value}

theorem of_step {after : Control}
    (stepped : ∀ stack arena, step ⟨control, scope, stack, depth, arena⟩ =
      some ⟨after, scope, stack, depth, arena⟩)
    (computes : Computes scope depth after computation) :
    Computes scope depth control computation :=
  fun stack arena => .head (stepped stack arena) (computes stack arena)

theorem result {outcome : Except EvalError Value}
    (stepped : ∀ stack arena, step ⟨control, scope, stack, depth, arena⟩ =
      some ⟨.done outcome, scope, stack, depth, arena⟩) :
    Computes scope depth control (ExceptT.mk (pure outcome)) :=
  fun stack arena => .head (stepped stack arena) .refl

theorem done (outcome : Except EvalError Value) :
    Computes scope depth (.done outcome) (ExceptT.mk (pure outcome)) :=
  fun _ _ => .refl

/-- A part takes the value of what it waits for, and an error or a pending result passes it by. -/
theorem part {first : Control} {part : Part} {operand : Evaluation Value}
    {next : Value → Evaluation Value}
    (stepped : ∀ stack arena, step ⟨control, scope, stack, depth, arena⟩ =
      some ⟨first, scope, .part part :: stack, depth, arena⟩)
    (computes : Computes scope depth first operand)
    (rest : ∀ value, value.isReturned = false →
      Computes scope depth (part.next value) (next value)) :
    Computes scope depth control (Evaluation.withOperand operand next) := by
  intro stack arena
  refine .head (stepped stack arena) (.trans (computes _ arena) ?_)
  rw [Evaluation.withOperand_apply]
  rcases operand arena with ⟨error | value, later⟩
  · exact .head rfl .refl
  · cases value with
    | returned value => exact .head rfl .refl
    | _ => exact .head rfl (rest _ rfl stack later)

theorem operand {operand : Expr} {part : Part} {computation : Evaluation Value}
    {next : Value → Evaluation Value}
    (computes : Computes scope depth (.expr operand) computation)
    (rest : ∀ value, value.isReturned = false →
      Computes scope depth (part.next value) (next value)) :
    Computes scope depth (.operand operand part) (Evaluation.withOperand computation next) :=
  .part (fun _ _ => rfl) computes rest

end Computes

/-- Whether the machine applies values, at a depth of calls, as the given application does. -/
def Applies (depth : Nat) (apply : Application) : Prop :=
  ∀ scope callee arguments, Computes scope depth (.apply callee arguments) (apply callee arguments)

section Tree

variable {depth : Nat} {apply : Application} {scope : FrameId}

mutual

theorem computes_expr (applies : Applies depth apply) (value : Expr) :
    Computes scope depth (.expr value) (value.evaluate apply scope) := by
  cases value with
  | ident name => exact fun _ _ => .single rfl
  | int _ value => exact Computes.result fun _ _ => rfl
  | bool _ value => exact Computes.result fun _ _ => rfl
  | string _ text => exact Computes.result fun _ _ => rfl
  | unary _ operator operand =>
      rw [Expr.evaluate]
      refine .of_step (fun _ _ => rfl) (.operand (computes_expr applies operand) fun value _ => ?_)
      exact Computes.result fun _ _ => rfl
  | binary _ left operator right =>
      rw [Expr.evaluate]
      refine .of_step (fun _ _ => rfl) (.operand (computes_expr applies left) fun value _ => ?_)
      refine .operand (computes_expr applies right) fun value' _ => ?_
      exact Computes.result fun _ _ => rfl
  | conditional _ condition consequence alternative =>
      rw [Expr.evaluate]
      refine .of_step (fun _ _ => rfl) ?_
      refine .operand (computes_expr applies condition) fun value _ => ?_
      refine .of_step (fun _ _ => rfl) ?_
      split
      · exact computes_block applies consequence
      · exact computes_alternative applies alternative
  | function _ parameters body => exact fun _ _ => .single rfl
  | call _ callee arguments =>
      rw [Expr.evaluate]
      refine .of_step (fun _ _ => rfl) (.operand (computes_expr applies callee) fun value _ => ?_)
      exact computes_arguments applies value [] arguments

theorem computes_alternative (applies : Applies depth apply) (alternative : Option Block) :
    Computes scope depth (.ofAlternative alternative)
      (evaluateAlternative apply scope alternative) := by
  cases alternative with
  | none => exact .done _
  | some block => exact computes_block applies block

theorem computes_arguments (applies : Applies depth apply) (callee : Value) (before : List Value)
    (arguments : List Expr) :
    Computes scope depth (.arguments callee before arguments)
      (do match ← evaluateArguments apply scope arguments with
          | .values values => apply callee (before ++ values)
          | .returned value => return .returned value) := by
  cases arguments with
  | nil =>
      rw [evaluateArguments]
      refine .of_step (fun _ _ => rfl) ?_
      simpa using applies scope callee before
  | cons argument rest =>
      refine .of_step (fun _ _ => rfl) ?_
      have parts : (do match ← evaluateArguments apply scope (argument :: rest) with
          | .values values => apply callee (before ++ values)
          | .returned value => return .returned value) =
          Evaluation.withOperand (argument.evaluate apply scope) fun value => do
            match ← evaluateArguments apply scope rest with
            | .values values => apply callee (before ++ [value] ++ values)
            | .returned value => return .returned value := by
        rw [evaluateArguments, Evaluation.withOperand, bind_assoc]
        refine bind_congr fun value => ?_
        cases value with
        | returned value => exact pure_bind _ _
        | _ =>
            rw [bind_assoc]
            refine bind_congr fun found => ?_
            cases found <;> simp
      rw [parts]
      exact .operand (computes_expr applies argument) fun value _ =>
        computes_arguments applies callee (before ++ [value]) rest

theorem computes_statement (applies : Applies depth apply) (statement : Statement) :
    Computes scope depth statement.control (statement.evaluate apply scope) := by
  cases statement with
  | bind _ identifier value =>
      rw [Statement.evaluate]
      exact .operand (computes_expr applies value) fun value _ _ _ => .single rfl
  | result _ value =>
      rw [Statement.evaluate]
      exact .operand (computes_expr applies value) fun value _ => .done _
  | expr _ value => exact computes_expr applies value

theorem computes_statements (applies : Applies depth apply) (latest : Value)
    (statements : List Statement) :
    Computes scope depth (.statements latest statements)
      (evaluateStatements apply scope latest statements) := by
  cases statements with
  | nil => exact Computes.result fun _ _ => rfl
  | cons statement rest =>
      rw [evaluateStatements]
      exact .part (fun _ _ => rfl) (computes_statement applies statement) fun value _ =>
        computes_statements applies value rest

theorem computes_block (applies : Applies depth apply) (block : Block) :
    Computes scope depth block.control (block.evaluate apply scope) := by
  cases block with
  | mk _ statements => exact computes_statements applies .null statements

end

end Tree

/-- Parameters are bound one by one before the body starts. -/
theorem runs_enter (body : Block) (parameters : List Identifier) (arguments : List Value)
    (scope : FrameId) (stack : List Pending) (depth : Nat) (arena : Arena) :
    Runs ⟨.enter parameters arguments body, scope, stack, depth, arena⟩
      ⟨body.control, scope, stack, depth, arena.bindAll scope parameters arguments⟩ := by
  induction parameters generalizing arguments arena with
  | nil => exact .single rfl
  | cons parameter parameters ih =>
      cases arguments with
      | nil => exact .single rfl
      | cons argument arguments => exact .head rfl (ih arguments _)

/-- A call of a closure whose arguments fit, where another call may be nested, comes back with the
outcome of the closure's body. -/
theorem computes_call {depth : Nat} {apply : Application} {scope : FrameId} {function : Closure}
    {arguments : List Value} (applies : Applies (depth + 1) apply)
    (arity : arguments.length = function.parameters.length) (room : depth < callDepthLimit) :
    Computes scope depth (.apply (.closure function) arguments)
      (function.enter .reusing apply arguments) := by
  intro stack arena
  have opened : step ⟨.apply (.closure function) arguments, scope, stack, depth, arena⟩ =
      some (call ⟨.apply (.closure function) arguments, scope, stack, depth, arena⟩ function
        arguments) := by
    simp [step, stepApply, arity, Nat.not_le.mpr room]
  refine .head opened (.trans (runs_enter function.body _ _ _ _ _ _) ?_)
  exact .trans (computes_block applies function.body _ _) (.single rfl)

/-- The machine applies values as evaluation does that may nest as many calls as are left. -/
theorem applies_apply {depth remaining : Nat} (left : callDepthLimit - depth = remaining) :
    Applies depth (Value.apply .reusing remaining) := by
  induction remaining generalizing depth with
  | zero =>
      intro scope callee arguments
      cases callee with
      | closure function =>
          by_cases arity : arguments.length = function.parameters.length
          · rw [Value.apply_zero arity]
            have full : callDepthLimit ≤ depth := Nat.sub_eq_zero_iff_le.mp left
            exact Computes.result fun _ _ => by simp [step, stepApply, arity, full, goOn]
          · rw [Value.apply_of_length_ne arity]
            exact Computes.result fun _ _ => by simp [step, stepApply, arity, goOn]
      | _ => exact Computes.result fun _ _ => rfl
  | succ remaining ih =>
      intro scope callee arguments
      cases callee with
      | closure function =>
          by_cases arity : arguments.length = function.parameters.length
          · rw [Value.apply_succ arity]
            exact computes_call (ih (by omega)) arity (by omega)
          · rw [Value.apply_of_length_ne arity]
            exact Computes.result fun _ _ => by simp [step, stepApply, arity, goOn]
      | _ => exact Computes.result fun _ _ => rfl

/-- A machine before it runs a program in a frame. -/
def start (program : Program) (scope : FrameId) (arena : Arena) : Configuration where
  control := .statements .null program.statements
  scope := scope
  stack := []
  depth := 0
  arena := arena

end Configuration

/-- The machine runs a program to its end. What it comes to is what the program does, which then
takes the wrapping off a pending result and collects. -/
theorem Program.runs_evaluate (program : Program) (scope : FrameId) (arena : Arena) :
    ∃ outcome later, (Configuration.start program scope arena).Runs
        ⟨.done outcome, scope, [], 0, later⟩ ∧
      program.evaluate scope arena = (outcome.map Value.unwrap,
        (later.collect (outcomeValues (outcome.map Value.unwrap))).2) :=
  ⟨_, _, Configuration.computes_statements (Configuration.applies_apply rfl) .null
    program.statements [] arena, program.evaluate_eq scope arena⟩

end Monkey
