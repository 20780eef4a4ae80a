import Monkey.Program.Basic

/-!
# Printed programs

A tree prints as one line of program text in which every operator application stands in
parentheses of its own, so that reading the text needs no knowledge of precedence. Integer
literals print as they were written. An expression statement prints its optional terminator
only where another statement follows, since `1 2` would else read as `12`.
-/

namespace Monkey

def commaSeparated (items : List String) : String :=
  ", ".intercalate items

/-- What stands between a statement and the ones that follow it. -/
def Statement.separator (statement : Statement) (following : List Statement) : String :=
  match following, statement with
  | [], _ => ""
  | _, .expr _ _ => "; "
  | _, _ => " "

mutual

def Expr.print : Expr → String
  | .ident identifier => identifier.name
  | .int token _ => token.literal
  | .bool _ value => if value then "true" else "false"
  | .string _ value => "\"" ++ value ++ "\""
  | .unary _ operator operand => "(" ++ operator.symbol ++ operand.print ++ ")"
  | .binary _ left operator right =>
      "(" ++ left.print ++ " " ++ operator.symbol ++ " " ++ right.print ++ ")"
  | .conditional _ condition consequence alternative =>
      "if (" ++ condition.print ++ ") " ++ consequence.print ++ printAlternative alternative
  | .function _ parameters body =>
      "fn(" ++ commaSeparated (parameters.map Identifier.name) ++ ") " ++ body.print
  | .call _ callee arguments =>
      callee.print ++ "(" ++ commaSeparated (printArguments arguments) ++ ")"

def printAlternative : Option Block → String
  | none => ""
  | some block => " else " ++ block.print

def printArguments : List Expr → List String
  | [] => []
  | argument :: rest => argument.print :: printArguments rest

def Statement.print : Statement → String
  | .bind token identifier value =>
      token.literal ++ " " ++ identifier.name ++ " = " ++ value.print ++ ";"
  | .result token value => token.literal ++ " " ++ value.print ++ ";"
  | .expr _ value => value.print

def printStatements : List Statement → String
  | [] => ""
  | statement :: rest => statement.print ++ statement.separator rest ++ printStatements rest

def Block.print : Block → String
  | ⟨_, []⟩ => "\x7b \x7d"
  | ⟨_, statements⟩ => "\x7b " ++ printStatements statements ++ " \x7d"

end

def Program.print (program : Program) : String :=
  printStatements program.statements

end Monkey
