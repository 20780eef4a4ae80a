import Monkey.Token.Basic

/-!
# Parse diagnostics

The three ways in which a program text can be malformed, and the message for each.
-/

namespace Monkey

/-- Why a statement could not be read: another token was due, no expression starts with the
token found, or the digits write no integer of 64 bits. -/
inductive Diagnostic where
  | unexpectedToken (expected got : Kind)
  | noExpression (found : Kind)
  | invalidInteger (literal : String)
  deriving DecidableEq

def Diagnostic.message : Diagnostic → String
  | unexpectedToken expected got =>
      "expected next token to be " ++ expected.name ++ ", got " ++ got.name ++ " instead"
  | noExpression found => "no prefix parse function for " ++ found.name ++ " found"
  | invalidInteger literal => "could not parse " ++ literal ++ " as integer"

end Monkey
