import Monkey.Program.Basic
import Monkey.Program.Cursor
import Monkey.Text.Decimal
import Monkey.Token.Lexeme

/-!
# Parsing

Statements are read one after the other, and expressions by binding strength: an operand is
extended to the right as long as the operator that follows binds more strongly than the context,
which makes every operator group to the left. A reader starts with the cursor on the first token
of its construct and leaves it on the last one.

A malformed statement is dropped. Reading goes on after the next semicolon, or at the brace that
closes the enclosing block; a block that the end of the program cuts off is malformed itself.

The readers recurse on a budget of steps. `Program.parse` supplies enough of it for every token
list: of the calls from one token to the next, each stands for another one of the few readers.
-/

namespace Monkey

open Parse

/-- Whether a malformed statement of a program ends at a token. -/
def Token.endsStatement (token : Token) : Bool :=
  token == .punctuation .semicolon || token == .eof

/-- Whether a malformed statement of a block ends at a token. -/
def Token.endsStatementOfBlock (token : Token) : Bool :=
  token.endsStatement || token == .punctuation .closeBrace

/-- Reads the identifier that has to come next. -/
def Identifier.parse : Parse Identifier := do
  expect .ident
  let token ← current
  return .ofToken token

/-- Reads the parameters after the first one, up to the closing parenthesis. -/
def Identifier.parseMore : Nat → Parse (List Identifier)
  | 0 => unfinished
  | budget + 1 => do
      match ← upcoming with
      | .punctuation .comma =>
          advance
          let parameter ← Identifier.parse
          let rest ← Identifier.parseMore budget
          return parameter :: rest
      | _ =>
          expect (.punctuation .closeParen)
          return []

/-- Reads parameters, from the opening parenthesis to the closing one. -/
def Identifier.parseList (budget : Nat) : Parse (List Identifier) := do
  match ← upcoming with
  | .punctuation .closeParen =>
      advance
      return []
  | _ =>
      let parameter ← Identifier.parse
      let rest ← Identifier.parseMore budget
      return parameter :: rest

mutual

/-- Reads an expression whose operators bind more strongly than the context. -/
def Expr.parse : Nat → Precedence → Parse Expr
  | 0, _ => unfinished
  | budget + 1, context => do
      let operand ← Expr.parseOperand budget
      Expr.parseOperators budget context operand

/-- Extends an expression by the operators and calls that follow it. -/
def Expr.parseOperators : Nat → Precedence → Expr → Parse Expr
  | 0, _, _ => unfinished
  | budget + 1, context, left => do
      match ← upcoming with
      | .operator operator =>
          if context < operator.precedence then
            advance
            advance
            let right ← Expr.parse budget operator.precedence
            Expr.parseOperators budget context (.binary (.operator operator) left operator right)
          else
            return left
      | .punctuation .openParen =>
          if context < .call then
            advance
            let arguments ← Expr.parseArguments budget
            Expr.parseOperators budget context (.call (.punctuation .openParen) left arguments)
          else
            return left
      | _ => return left

/-- Reads an expression up to the first operator that stands between operands. -/
def Expr.parseOperand : Nat → Parse Expr
  | 0 => unfinished
  | budget + 1 => do
      match ← current with
      | .ident name => return .ident (.ofToken (.ident name))
      | .int digits =>
          match Decimal.int64? digits with
          | some value => return .int (.int digits) value
          | none => fail (.invalidInteger digits)
      | .string text => return .string (.string text) text
      | .keyword .trueWord => return .bool (.keyword .trueWord) true
      | .keyword .falseWord => return .bool (.keyword .falseWord) false
      | .operator .bang => Expr.parseUnary budget .bang
      | .operator .minus => Expr.parseUnary budget .minus
      | .punctuation .openParen => Expr.parseGroup budget
      | .keyword .ifWord => Expr.parseConditional budget
      | .keyword .fnWord => Expr.parseFunction budget
      | token => fail (.noExpression token.kind)

def Expr.parseUnary : Nat → Operator → Parse Expr
  | 0, _ => unfinished
  | budget + 1, operator => do
      advance
      let operand ← Expr.parse budget .unary
      return .unary (.operator operator) operator operand

/-- Reads an expression in parentheses, which leave no node of their own. -/
def Expr.parseGroup : Nat → Parse Expr
  | 0 => unfinished
  | budget + 1 => do
      advance
      let value ← Expr.parse budget .lowest
      expect (.punctuation .closeParen)
      return value

def Expr.parseConditional : Nat → Parse Expr
  | 0 => unfinished
  | budget + 1 => do
      expect (.punctuation .openParen)
      advance
      let condition ← Expr.parse budget .lowest
      expect (.punctuation .closeParen)
      expect (.punctuation .openBrace)
      let consequence ← Block.parse budget
      match ← upcoming with
      | .keyword .elseWord =>
          advance
          expect (.punctuation .openBrace)
          let alternative ← Block.parse budget
          return .conditional (.keyword .ifWord) condition consequence (some alternative)
      | _ => return .conditional (.keyword .ifWord) condition consequence none

def Expr.parseFunction : Nat → Parse Expr
  | 0 => unfinished
  | budget + 1 => do
      expect (.punctuation .openParen)
      let parameters ← Identifier.parseList budget
      expect (.punctuation .openBrace)
      let body ← Block.parse budget
      return .function (.keyword .fnWord) parameters body

/-- Reads the arguments of a call, from the opening parenthesis to the closing one. -/
def Expr.parseArguments : Nat → Parse (List Expr)
  | 0 => unfinished
  | budget + 1 => do
      match ← upcoming with
      | .punctuation .closeParen =>
          advance
          return []
      | _ =>
          advance
          let argument ← Expr.parse budget .lowest
          let rest ← Expr.parseMoreArguments budget
          return argument :: rest

/-- Reads the arguments after the first one, up to the closing parenthesis. -/
def Expr.parseMoreArguments : Nat → Parse (List Expr)
  | 0 => unfinished
  | budget + 1 => do
      match ← upcoming with
      | .punctuation .comma =>
          advance
          advance
          let argument ← Expr.parse budget .lowest
          let rest ← Expr.parseMoreArguments budget
          return argument :: rest
      | _ =>
          expect (.punctuation .closeParen)
          return []

/-- Reads a statement and the semicolon after it, if there is one. -/
def Statement.parse : Nat → Parse Statement
  | 0 => unfinished
  | budget + 1 => do
      match ← current with
      | .keyword .letWord =>
          let identifier ← Identifier.parse
          expect (.punctuation .assign)
          advance
          let value ← Expr.parse budget .lowest
          skipOptional (.punctuation .semicolon)
          return .bind (.keyword .letWord) identifier value
      | .keyword .returnWord =>
          advance
          let value ← Expr.parse budget .lowest
          skipOptional (.punctuation .semicolon)
          return .result (.keyword .returnWord) value
      | token =>
          let value ← Expr.parse budget .lowest
          skipOptional (.punctuation .semicolon)
          return .expr token value

/-- Reads a block, from the opening brace to the closing one. -/
def Block.parse : Nat → Parse Block
  | 0 => unfinished
  | budget + 1 => do
      let token ← current
      advance
      let statements ← Block.parseStatements budget
      match ← current with
      | .punctuation .closeBrace => return ⟨token, statements⟩
      | found => fail (.unexpectedToken (.punctuation .closeBrace) found.kind)

/-- Reads the statements of a block up to its closing brace or the end of the program, leaving
out the malformed ones. -/
def Block.parseStatements : Nat → Parse (List Statement)
  | 0 => unfinished
  | budget + 1 => do
      match ← current with
      | .punctuation .closeBrace => return []
      | .eof => return []
      | _ =>
          match ← attempt (Statement.parse budget) with
          | some statement =>
              advance
              let rest ← Block.parseStatements budget
              return statement :: rest
          | none =>
              skipTo Token.endsStatementOfBlock
              match ← current with
              | .punctuation .closeBrace => return []
              | _ =>
                  advance
                  Block.parseStatements budget

end

/-- Reads the statements of a program up to its end, leaving out the malformed ones. -/
def Program.parseStatements : Nat → Parse (List Statement)
  | 0 => unfinished
  | budget + 1 => do
      match ← current with
      | .eof => return []
      | _ =>
          match ← attempt (Statement.parse budget) with
          | some statement =>
              advance
              let rest ← Program.parseStatements budget
              return statement :: rest
          | none =>
              skipTo Token.endsStatement
              advance
              Program.parseStatements budget

/-- A number of steps that reading never uses up: between two tokens at most eight readers call
one another. -/
def Program.parseBudget (tokens : List Token) : Nat :=
  8 * (tokens.length + 1)

/-- What a token list reads as: the well-formed statements, and a diagnostic for each fault. -/
structure Reading where
  program : Program
  diagnostics : List Diagnostic

/-- Whether nothing was wrong with the tokens that were read. -/
def Reading.accepted (reading : Reading) : Bool :=
  reading.diagnostics.isEmpty

/-- Reads a program from its tokens; past the end of the list stands the end mark. -/
def Program.parse (tokens : List Token) : Reading :=
  match Program.parseStatements (Program.parseBudget tokens) ⟨tokens, []⟩ with
  | .parsed statements cursor => ⟨⟨statements⟩, cursor.diagnostics⟩
  | .failed cursor => ⟨⟨[]⟩, cursor.diagnostics⟩
  | .unfinished => ⟨⟨[]⟩, []⟩

/-- Reads a program from its text. -/
def Program.ofSource (source : String) : Reading :=
  Program.parse (Token.ofSource source)

end Monkey
