/-!
# Operators and precedence

The nine operators of the language with their spelling, and the levels of binding strength
that decide how a chain of them groups. Which operators may stand before one operand and
which between two is decided where they are read; a tree may hold any of them in either place.
-/

namespace Monkey

/-- An operator that stands before one operand or between two. -/
inductive Operator where
  | bang
  | minus
  | plus
  | asterisk
  | slash
  | less
  | greater
  | equal
  | notEqual
  deriving DecidableEq

/-- Binding strength, weakest first. -/
inductive Precedence where
  | lowest
  | equality
  | comparison
  | sum
  | product
  | unary
  | call
  deriving DecidableEq

namespace Precedence

/-- The position of a level in the order of binding strength. -/
def level : Precedence → Nat
  | lowest => 0
  | equality => 1
  | comparison => 2
  | sum => 3
  | product => 4
  | unary => 5
  | call => 6

instance : LT Precedence := ⟨fun left right => left.level < right.level⟩

instance (left right : Precedence) : Decidable (left < right) :=
  inferInstanceAs (Decidable (left.level < right.level))

theorem lt_iff_level_lt {left right : Precedence} : left < right ↔ left.level < right.level :=
  Iff.rfl

end Precedence

namespace Operator

/-- Every operator, once. -/
def all : List Operator :=
  [bang, minus, plus, asterisk, slash, less, greater, equal, notEqual]

theorem mem_all (operator : Operator) : operator ∈ all := by
  cases operator <;> decide

/-- The text of an operator in a program. -/
def symbol : Operator → String
  | bang => "!"
  | minus => "-"
  | plus => "+"
  | asterisk => "*"
  | slash => "/"
  | less => "<"
  | greater => ">"
  | equal => "=="
  | notEqual => "!="

/-- The word for an operator in diagnostics. -/
def name : Operator → String
  | bang => "Bang"
  | minus => "Minus"
  | plus => "Plus"
  | asterisk => "Asterisk"
  | slash => "Slash"
  | less => "LT"
  | greater => "GT"
  | equal => "Eq"
  | notEqual => "NotEq"

/-- How strongly an operator binds between two operands; `!` never stands there and so binds
at the lowest level. -/
def precedence : Operator → Precedence
  | bang => .lowest
  | minus | plus => .sum
  | asterisk | slash => .product
  | less | greater => .comparison
  | equal | notEqual => .equality

end Operator

end Monkey
