import Monkey.EvalError
import Monkey.Value

/-!
# Operators on values

Integers wrap around at 64 bits and divide toward zero, text is joined by `+`, and any two
values can be compared for equality. Every other combination is an error that names the types.
-/

namespace Monkey.Operator

def applyUnary : Operator → Value → Except EvalError Value
  | bang, operand => .ok (.bool !operand.isTruthy)
  | minus, .int value => .ok (.int (-value))
  | operator, operand => .error (.unknownUnary operator operand.typeName)

def applyInts (operator : Operator) (left right : Int64) : Except EvalError Value :=
  match operator with
  | plus => .ok (.int (left + right))
  | minus => .ok (.int (left - right))
  | asterisk => .ok (.int (left * right))
  | slash => if right = 0 then .error .divisionByZero else .ok (.int (left / right))
  | less => .ok (.bool (decide (left < right)))
  | greater => .ok (.bool (decide (right < left)))
  | equal => .ok (.bool (left == right))
  | notEqual => .ok (.bool (left != right))
  | bang => .error (.unknownBinary "INTEGER" bang "INTEGER")

def applyStrings (operator : Operator) (left right : String) : Except EvalError Value :=
  match operator with
  | plus => .ok (.string (left ++ right))
  | equal => .ok (.bool (left == right))
  | notEqual => .ok (.bool (left != right))
  | operator => .error (.unknownBinary "STRING" operator "STRING")

/-- An operator between two values that are neither two integers nor two texts. -/
def applyMixed (operator : Operator) (left right : Value) : Except EvalError Value :=
  match operator with
  | equal => .ok (.bool (left == right))
  | notEqual => .ok (.bool (left != right))
  | operator => .error (.ofBinary left.typeName operator right.typeName)

/-- An operator between two values. -/
def applyBinary (operator : Operator) (left right : Value) : Except EvalError Value :=
  match left, right with
  | .int left, .int right => applyInts operator left right
  | .string left, .string right => applyStrings operator left right
  | left, right => applyMixed operator left right

end Monkey.Operator
