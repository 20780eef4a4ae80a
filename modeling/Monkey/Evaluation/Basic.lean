import Monkey.Arena.Collect
import Monkey.Builtin
import Monkey.Evaluation.Operation

/-!
# Evaluation

A program runs in a frame of an arena. Operands are evaluated from left to right. A `return`
yields a pending result, which abandons whatever it meets on its way out: it arrives, and loses
its wrapping, only at the call of a function or at the end of the program.

What a call does is a parameter of the evaluation of trees, which recurses on the tree alone.
`Value.apply` closes the knot: it recurses on the number of calls that may still be nested, and
a call beyond them is an error. So every evaluation ends.

How the frames of calls come and go is a parameter as well. `FramePolicy.reusing` is the policy
that programs run with.
-/

namespace Monkey

/-- A computation that may change the arena and may fail; a failure leaves the arena as it is
at that moment. -/
abbrev Evaluation := ExceptT EvalError (StateM Arena)

/-- How a value is applied to arguments. -/
abbrev Application := Value → List Value → Evaluation Value

/-- The values of the arguments of a call, or the pending result that evaluating them met. -/
inductive Arguments where
  | values (values : List Value)
  | returned (value : Value)

/-- Evaluates an operand and goes on with its value; a pending result ends the whole. -/
@[always_inline, inline]
def Evaluation.withOperand (operand : Evaluation Value) (next : Value → Evaluation Value) :
    Evaluation Value := do
  match ← operand with
  | .returned value => return .returned value
  | value => next value

/-- The value of a name: that of the innermost frame that binds it, else the built-in function
of that name. -/
def Evaluation.identifier (scope : FrameId) (name : String) : Evaluation Value := fun arena =>
  match arena.lookup? scope name with
  | some value => (.ok value, arena)
  | none =>
      match Builtin.ofName? name with
      | some builtin => (.ok (.builtin builtin), arena)
      | none => (.error (.unboundIdentifier name), arena)

def Evaluation.bind (scope : FrameId) (name : String) (value : Value) : Evaluation Value :=
  fun arena => (.ok .null, arena.bind scope name value)

def Evaluation.close (scope : FrameId) (parameters : List Identifier) (body : Block) :
    Evaluation Value := fun arena =>
  let (closure, arena) := arena.close scope parameters body
  (.ok (.closure closure), arena)

open Evaluation

mutual

def Expr.evaluate (apply : Application) (scope : FrameId) : Expr → Evaluation Value
  | .ident name => identifier scope name.name
  | .int _ value => return .int value
  | .bool _ value => return .bool value
  | .string _ text => return .string text
  | .unary _ operator operand =>
      withOperand (operand.evaluate apply scope) fun operand =>
        ExceptT.mk (return operator.applyUnary operand)
  | .binary _ left operator right =>
      withOperand (left.evaluate apply scope) fun left =>
        withOperand (right.evaluate apply scope) fun right =>
          ExceptT.mk (return operator.applyBinary left right)
  | .conditional _ condition consequence alternative =>
      withOperand (condition.evaluate apply scope) fun condition =>
        if condition.isTruthy then
          consequence.evaluate apply scope
        else
          evaluateAlternative apply scope alternative
  | .function _ parameters body => close scope parameters body
  | .call _ callee arguments =>
      withOperand (callee.evaluate apply scope) fun callee => do
        match ← evaluateArguments apply scope arguments with
        | .values values => apply callee values
        | .returned value => return .returned value

/-- The value of the alternative of a conditional; null if there is none. -/
def evaluateAlternative (apply : Application) (scope : FrameId) :
    Option Block → Evaluation Value
  | none => return .null
  | some block => block.evaluate apply scope

/-- The values of arguments, up to a pending result. -/
def evaluateArguments (apply : Application) (scope : FrameId) :
    List Expr → Evaluation Arguments
  | [] => return .values []
  | argument :: rest => do
      match ← argument.evaluate apply scope with
      | .returned value => return .returned value
      | value =>
          match ← evaluateArguments apply scope rest with
          | .values values => return .values (value :: values)
          | .returned value => return .returned value

/-- The value of a statement; a binding has the value null. -/
def Statement.evaluate (apply : Application) (scope : FrameId) : Statement → Evaluation Value
  | .bind _ identifier value =>
      withOperand (value.evaluate apply scope) fun value => bind scope identifier.name value
  | .result _ value =>
      withOperand (value.evaluate apply scope) fun value => return .returned value
  | .expr _ value => value.evaluate apply scope

/-- The value of the last one of statements, up to a pending result; without statements, the
value of those before them. -/
def evaluateStatements (apply : Application) (scope : FrameId) :
    Value → List Statement → Evaluation Value
  | latest, [] => return latest
  | _, statement :: rest => do
      match ← statement.evaluate apply scope with
      | .returned value => return .returned value
      | value => evaluateStatements apply scope value rest

/-- The value of a block, which leaves a pending result as it is. -/
def Block.evaluate (apply : Application) (scope : FrameId) : Block → Evaluation Value
  | ⟨_, statements⟩ => evaluateStatements apply scope .null statements

end

/-- How a run makes a frame within another one, gives up a handle on a frame, and, at its end,
frees what neither a handle nor the given values need. -/
structure FramePolicy where
  enclose : FrameId → Arena → FrameId × Arena
  drop : FrameId → Arena → Arena
  collect : List Value → Arena → Arena

/-- Frames that nothing refers to are freed, and their places are used again. -/
def FramePolicy.reusing : FramePolicy where
  enclose := Arena.enclose
  drop := Arena.drop
  collect values arena := (arena.collect values).2

/-- Runs the body of a closure in a new frame within the closure's home, where the parameters
are bound to the arguments; the frame's handle is given up afterwards, whatever came of it. -/
def Closure.enter (policy : FramePolicy) (apply : Application) (closure : Closure)
    (arguments : List Value) : Evaluation Value := fun arena =>
  let (scope, arena) := policy.enclose closure.home arena
  let arena := arena.bindAll scope closure.parameters arguments
  let (outcome, arena) := closure.body.evaluate apply scope arena
  (outcome.map Value.unwrap, policy.drop scope arena)

/-- Applies a value to arguments with a number of calls that may still be nested; a wrong number
of arguments counts before a lack of calls. -/
def Value.apply (policy : FramePolicy) : Nat → Application
  | 0, .closure function, arguments =>
      if arguments.length = function.parameters.length then
        throw .stackOverflow
      else
        throw (.wrongArity arguments.length function.parameters.length)
  | remaining + 1, .closure function, arguments =>
      if arguments.length = function.parameters.length then
        function.enter policy (Value.apply policy remaining) arguments
      else
        throw (.wrongArity arguments.length function.parameters.length)
  | _, .builtin function, arguments => ExceptT.mk (return function.apply arguments)
  | _, callee, _ => throw (.notAFunction callee.typeName)

/-- The number of calls that may be nested. -/
def callDepthLimit : Nat := 2048

namespace Program

/-- The value of a program in a frame, before anything is collected. -/
def run (policy : FramePolicy) (program : Program) (scope : FrameId) : Evaluation Value := do
  let value ←
    evaluateStatements (Value.apply policy callDepthLimit) scope .null program.statements
  return value.unwrap

/-- The values that the caller of a run holds after it. -/
def outcomeValues : Except EvalError Value → List Value
  | .ok value => [value]
  | .error _ => []

/-- Runs a program in a frame, which keeps the bindings of the program, and then collects what
neither a handle nor the value of the program needs. -/
def evaluateWith (policy : FramePolicy) (program : Program) (scope : FrameId) :
    Evaluation Value := fun arena =>
  let (outcome, arena) := program.run policy scope arena
  (outcome, policy.collect (outcomeValues outcome) arena)

/-- Runs a program in a frame and frees every frame that neither a handle nor the value of the
program can reach. -/
def evaluate (program : Program) (scope : FrameId) : Evaluation Value :=
  program.evaluateWith .reusing scope

end Program

end Monkey
