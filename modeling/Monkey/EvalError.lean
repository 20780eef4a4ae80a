import Monkey.Operator

/-!
# Evaluation errors

The ways in which running a program can fail, and the message for each. Types appear by name.
-/

namespace Monkey

/-- Why a program stopped without a value. -/
inductive EvalError where
  | unboundIdentifier (name : String)
  | unknownUnary (operator : Operator) (operand : String)
  | unknownBinary (left : String) (operator : Operator) (right : String)
  | typeMismatch (left : String) (operator : Operator) (right : String)
  | notAFunction (type : String)
  | unsupportedArgument (function : String) (type : String)
  | unsupportedArgumentAt (function : String) (position : Nat) (type : String)
  | wrongArity (got want : Nat)
  | divisionByZero
  | stackOverflow
  deriving DecidableEq

namespace EvalError

def message : EvalError → String
  | unboundIdentifier name => "identifier not found: " ++ name
  | unknownUnary operator operand => "unknown operator: " ++ operator.symbol ++ operand
  | unknownBinary left operator right =>
      "unknown operator: " ++ left ++ " " ++ operator.symbol ++ " " ++ right
  | typeMismatch left operator right =>
      "type mismatch: " ++ left ++ " " ++ operator.symbol ++ " " ++ right
  | notAFunction type => "not a function: " ++ type
  | unsupportedArgument function type =>
      "argument to `" ++ function ++ "` not supported, got " ++ type
  | unsupportedArgumentAt function position type =>
      "argument " ++ Nat.repr position ++ " to `" ++ function ++ "` not supported, got " ++ type
  | wrongArity got want =>
      "wrong number of arguments. got=" ++ Nat.repr got ++ ", want=" ++ Nat.repr want
  | divisionByZero => "division by zero"
  | stackOverflow => "stack overflow"

/-- The error of an operator between operands that it does not take: operands of one type make
the operator unknown, operands of two types do not match. -/
def ofBinary (left : String) (operator : Operator) (right : String) : EvalError :=
  if left = right then unknownBinary left operator right else typeMismatch left operator right

end EvalError

end Monkey
