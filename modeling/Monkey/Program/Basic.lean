import Monkey.Token.Basic

/-!
# Program trees

A program is a list of statements, and a statement holds an expression. Every node keeps the
token that it was read from. A tree built by hand may hold tokens that disagree with its nodes:
the tokens serve the printer and the comparison of trees, while running a program reads the
nodes alone.
-/

namespace Monkey

/-- A name together with the token it was read from. -/
structure Identifier where
  token : Token
  name : String
  deriving DecidableEq

/-- The identifier that a token spells. -/
def Identifier.ofToken (token : Token) : Identifier :=
  ⟨token, token.literal⟩

mutual

/-- An expression; the token is the operator for `unary` and `binary`, the opening parenthesis
for `call`, and the first token of the expression otherwise. -/
inductive Expr where
  | ident (identifier : Identifier)
  | int (token : Token) (value : Int64)
  | bool (token : Token) (value : Bool)
  | string (token : Token) (value : String)
  | unary (token : Token) (operator : Operator) (operand : Expr)
  | binary (token : Token) (left : Expr) (operator : Operator) (right : Expr)
  | conditional (token : Token) (condition : Expr) (consequence : Block)
      (alternative : Option Block)
  | function (token : Token) (parameters : List Identifier) (body : Block)
  | call (token : Token) (callee : Expr) (arguments : List Expr)

/-- A statement: it binds a name, ends the running function with a result, or is an expression
of its own, whose token is then the first one of the expression. -/
inductive Statement where
  | bind (token : Token) (identifier : Identifier) (value : Expr)
  | result (token : Token) (value : Expr)
  | expr (token : Token) (value : Expr)

/-- Statements between braces; the token is the opening brace. -/
structure Block where
  token : Token
  statements : List Statement

end

structure Program where
  statements : List Statement

namespace Expr

def token : Expr → Token
  | ident identifier => identifier.token
  | int token _ => token
  | bool token _ => token
  | string token _ => token
  | unary token _ _ => token
  | binary token _ _ _ => token
  | conditional token _ _ _ => token
  | function token _ _ => token
  | call token _ _ => token

end Expr

namespace Statement

def token : Statement → Token
  | bind token _ _ => token
  | result token _ => token
  | expr token _ => token

def value : Statement → Expr
  | bind _ _ value => value
  | result _ value => value
  | expr _ value => value

end Statement

namespace Program

/-- The text of the token that opens a program; empty for the empty program. -/
def literal (program : Program) : String :=
  match program.statements with
  | [] => ""
  | statement :: _ => statement.token.literal

end Program

end Monkey
